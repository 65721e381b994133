import GraphSchema.Text.Case
import GraphSchema.Text.Lines

/-!
# Names

A name is a letter or underscore followed by letters, digits and underscores, all of ASCII.
Authors separate words with underscores; types print in Pascal case, fields and arguments in
camel case.
-/

namespace GraphSchema.Name

open GraphSchema.Text

/-! ## Which texts are names -/

def isStart (c : Char) : Bool := c.isAlpha || c == '_'

def isPart (c : Char) : Bool := c.isAlphanum || c == '_'

/-- What keeps a text from being a name. -/
inductive Flaw where
  | empty
  | badStart
  | badPart
  deriving DecidableEq, Repr

def Flaw.message : Flaw → String
  | .empty => "name cannot be empty"
  | .badStart => "name must start with a letter or underscore"
  | .badPart => "name must contain only letters, numbers, and underscores"

/-- The first flaw of a text, none for a name. -/
def flawOf? : List Char → Option Flaw
  | [] => some .empty
  | c :: rest =>
    if !isStart c then some .badStart
    else if rest.all isPart then none
    else some .badPart

def flaw? (name : String) : Option Flaw := flawOf? name.toList

def isValid (name : String) : Bool := (flaw? name).isNone

theorem flawOf?_cons_eq_none_iff (c : Char) (rest : List Char) :
    flawOf? (c :: rest) = none ↔ isStart c = true ∧ ∀ d ∈ rest, isPart d = true := by
  cases h : isStart c <;> by_cases h' : rest.all isPart <;> simp_all [flawOf?]

/-! ## Case -/

/-- The part with its first character in upper case. -/
def capitalize : List Char → List Char
  | [] => []
  | c :: rest => upper c ++ rest

/-- The part with its first character in lower case. -/
def uncapitalize : List Char → List Char
  | [] => []
  | c :: rest => lower c ++ rest

/-- The words of a name joined, each with a capital. -/
def pascalChars (text : List Char) : List Char :=
  (split '_' text).flatMap capitalize

/-- The words joined, the first one small and the others with a capital. -/
def joinWords : List (List Char) → List Char
  | [] => []
  | word :: words => uncapitalize word ++ words.flatMap capitalize

/-- Leading underscores stay, so that `__typename` keeps its form. -/
def camelChars (text : List Char) : List Char :=
  text.takeWhile (· == '_') ++
    joinWords ((split '_' (text.dropWhile (· == '_'))).filter (!·.isEmpty))

def pascal (name : String) : String := String.ofList (pascalChars name.toList)

def camel (name : String) : String := String.ofList (camelChars name.toList)

/-- The schema's name for the type that an author calls `identifier`. -/
def typeName (identifier : String) : String :=
  if identifier = "string" then "String"
  else if identifier = "integer" ∨ identifier = "int" then "Int"
  else if identifier = "float" then "Float"
  else if identifier = "boolean" ∨ identifier = "bool" then "Boolean"
  else if identifier = "id" then "ID"
  else pascal identifier

end GraphSchema.Name
