import GraphSchema.Json.Basic

/-!
# Raw values

A default value as its author wrote it. The declared type decides how it prints.
-/

namespace GraphSchema

inductive Value where
  | null
  | boolean (value : Bool)
  | int (value : Int)
  | float (value : Double)
  | string (value : String)
  /-- An enum value, named by its key or its alias. -/
  | enum (name : String)
  | list (items : List Value)
  | object (entries : List (String × Value))
  deriving Inhabited

namespace Value

inductive Kind where
  | null | boolean | int | float | string | enum | list | object
  deriving DecidableEq, Repr

def Kind.text : Kind → String
  | null => "null"
  | boolean => "boolean"
  | int => "int"
  | float => "float"
  | string => "string"
  | enum => "enum"
  | list => "list"
  | object => "object"

def kind : Value → Kind
  | null => .null
  | boolean _ => .boolean
  | int _ => .int
  | float _ => .float
  | string _ => .string
  | enum _ => .enum
  | list _ => .list
  | object _ => .object

/-- Whether the value is a single one: no list and no object. -/
def isSingle : Value → Bool
  | list _ => false
  | object _ => false
  | _ => true

mutual

/-- Equality that compares floats as numbers and the entries of objects in any order. -/
def equal : Value → Value → Bool
  | null, null => true
  | boolean a, boolean b => a == b
  | int a, int b => a == b
  | float a, float b => a == b
  | string a, string b => a == b
  | enum a, enum b => a == b
  | list xs, list ys => equalItems xs ys
  | object es, object fs => es.length == fs.length && equalEntries es fs
  | _, _ => false

def equalItems : List Value → List Value → Bool
  | [], [] => true
  | x :: xs, y :: ys => equal x y && equalItems xs ys
  | _, _ => false

/-- Every entry has an equal one among `others`. -/
def equalEntries : List (String × Value) → List (String × Value) → Bool
  | [], _ => true
  | (key, value) :: entries, others =>
    (match Entries.get? key others with
      | some other => equal value other
      | none => false) && equalEntries entries others

end

instance : BEq Value := ⟨equal⟩

mutual

def toJson : Value → Json
  | null => .null
  | boolean b => .bool b
  | int n => .int n
  | float x => .double x
  | string s => .string s
  | enum s => .string s
  | list items => .array (itemsToJson items)
  | object entries => .object (entriesToJson entries)

def itemsToJson : List Value → List Json
  | [] => []
  | item :: items => toJson item :: itemsToJson items

def entriesToJson : List (String × Value) → List (String × Json)
  | [] => []
  | (key, value) :: entries => (key, toJson value) :: entriesToJson entries

end

end Value

end GraphSchema
