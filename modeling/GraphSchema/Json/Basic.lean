import GraphSchema.Number.Shortest
import GraphSchema.OrderedMap
import GraphSchema.Text.Quoted

/-!
# JSON

JSON trees and their text, on one line or indented. Objects keep the order of their entries.
-/

namespace GraphSchema

inductive Json where
  | null
  | bool (value : Bool)
  | int (value : Int)
  | double (value : Double)
  | string (value : String)
  | array (items : List Json)
  | object (entries : List (String × Json))
  deriving Inhabited

namespace Json

/-! ## Text -/

/-- Positional from `0.00001` to below `1e+16`, with an explicit plus sign in the exponent. -/
def numberLayout : Double.Layout := ⟨-5, 16, true, .even⟩

def hexLower (n : Nat) : Char :=
  if n < 10 then Char.ofNat (48 + n) else Char.ofNat (87 + n)

def escapeChar (c : Char) : List Char :=
  if c = '"' then ['\\', '"']
  else if c = '\\' then ['\\', '\\']
  else if c = '\n' then ['\\', 'n']
  else if c = '\r' then ['\\', 'r']
  else if c = '\t' then ['\\', 't']
  else if c.toNat = 8 then ['\\', 'b']
  else if c.toNat = 12 then ['\\', 'f']
  else if c.toNat < 0x20 then
    ['\\', 'u', '0', '0', hexLower (c.toNat / 16), hexLower (c.toNat % 16)]
  else [c]

def stringText (s : String) : String :=
  String.ofList ('"' :: s.toList.flatMap escapeChar ++ ['"'])

/-- A number has its shortest digits; what is no number is written as null. -/
def doubleText (x : Double) : String :=
  if x.isFinite then x.finiteText numberLayout else "null"

def boolText (b : Bool) : String := if b then "true" else "false"

mutual

/-- The text on one line, without blanks. -/
def compact : Json → String
  | null => "null"
  | bool b => boolText b
  | int n => toString n
  | double x => doubleText x
  | string s => stringText s
  | array items => "[" ++ String.intercalate "," (compactItems items) ++ "]"
  | object entries => "\x7b" ++ String.intercalate "," (compactEntries entries) ++ "\x7d"

def compactItems : List Json → List String
  | [] => []
  | item :: items => compact item :: compactItems items

def compactEntries : List (String × Json) → List String
  | [] => []
  | (key, value) :: entries => (stringText key ++ ":" ++ compact value) :: compactEntries entries

end

/-- A line end followed by two blanks for each level. -/
def newline (level : Nat) : String :=
  String.ofList ('\n' :: List.replicate (2 * level) ' ')

/-- Items between brackets, each on a line of its own. -/
def bracketed (opening closing : String) (level : Nat) : List String → String
  | [] => opening ++ closing
  | items =>
    opening ++ newline (level + 1) ++ String.intercalate ("," ++ newline (level + 1)) items ++
      newline level ++ closing

mutual

/-- The text with every item on a line of its own, indented by its level. -/
def prettyAt (level : Nat) : Json → String
  | null => "null"
  | bool b => boolText b
  | int n => toString n
  | double x => doubleText x
  | string s => stringText s
  | array items => bracketed "[" "]" level (prettyItems (level + 1) items)
  | object entries => bracketed "\x7b" "\x7d" level (prettyEntries (level + 1) entries)

def prettyItems (level : Nat) : List Json → List String
  | [] => []
  | item :: items => prettyAt level item :: prettyItems level items

def prettyEntries (level : Nat) : List (String × Json) → List String
  | [] => []
  | (key, value) :: entries =>
    (stringText key ++ ": " ++ prettyAt level value) :: prettyEntries level entries

end

def pretty (json : Json) : String := prettyAt 0 json

/-! ## Sorted keys -/

mutual

/-- The same value with the entries of every object sorted by key. -/
def sorted : Json → Json
  | array items => array (sortedItems items)
  | object entries => object ((sortedEntries entries).mergeSort fun a b => a.1 ≤ b.1)
  | other => other

def sortedItems : List Json → List Json
  | [] => []
  | item :: items => sorted item :: sortedItems items

def sortedEntries : List (String × Json) → List (String × Json)
  | [] => []
  | (key, value) :: entries => (key, sorted value) :: sortedEntries entries

end

end Json

end GraphSchema
