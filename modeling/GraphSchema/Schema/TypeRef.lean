import GraphSchema.Name
import GraphSchema.Text.Blank

/-!
# Type references

A reference to a named type, which may be wrapped in list and non-null markers. The same shape
serves authored type expressions, whose names are identifiers, and schema references, whose names
are those of types.
-/

namespace GraphSchema

inductive TypeRef where
  | named (name : String)
  | nonNull (inner : TypeRef)
  | list (item : TypeRef)
  deriving DecidableEq, Repr, Inhabited

namespace TypeRef

/-- The innermost name. -/
def baseName : TypeRef → String
  | named name => name
  | nonNull inner => inner.baseName
  | list item => item.baseName

def isNonNull : TypeRef → Bool
  | nonNull _ => true
  | _ => false

/-- The type without its outermost non-null marker. -/
def nullable : TypeRef → TypeRef
  | nonNull inner => inner
  | other => other

def text : TypeRef → String
  | named name => name
  | nonNull inner => inner.text ++ "!"
  | list item => "[" ++ item.text ++ "]"

/-- The same wrappers around another name. -/
def mapName (f : String → String) : TypeRef → TypeRef
  | named name => named (f name)
  | nonNull inner => nonNull (inner.mapName f)
  | list item => list (item.mapName f)

/-! ## Reading an expression -/

/-- Why a text is no type expression. -/
inductive ExprFlaw where
  | nonNullTwice
  | unclosedList
  | name (flaw : Name.Flaw)
  deriving DecidableEq, Repr

def ExprFlaw.message : ExprFlaw → String
  | .nonNullTwice => "a type can only be marked non-null once"
  | .unclosedList => "unclosed list bracket"
  | .name flaw => flaw.message

/-- A text without its last character, if that is `c`. -/
def stripLast? (c : Char) (text : List Char) : Option (List Char) :=
  if text.getLast? = some c then some text.dropLast else none

theorem length_of_stripLast? {c : Char} {text rest : List Char}
    (h : stripLast? c text = some rest) : rest.length + 1 = text.length := by
  unfold stripLast? at h
  split at h
  · rename_i hl
    cases h
    have hne : text ≠ [] := by rintro rfl; simp at hl
    have := List.length_pos_iff.2 hne
    simp; omega
  · simp at h

/-- Removes one non-null marker and the blanks before it. The flag says whether there was one. -/
def splitMark (text : List Char) : List Char × Bool :=
  match stripLast? '!' text with
  | some body => (Text.trimEnd body, true)
  | none => (text, false)

theorem length_splitMark_le (text : List Char) : (splitMark text).1.length ≤ text.length := by
  unfold splitMark
  split
  · rename_i body h
    have h1 := Text.length_trimEnd_le body
    have h2 := length_of_stripLast? h
    simp only; omega
  · simp

/-- The type, with a non-null marker if the flag is set. -/
def mark (marked : Bool) (type : TypeRef) : TypeRef :=
  if marked then nonNull type else type

/-- Reads `ty := name '!'? | '[' ty ']' '!'?` from a text without blanks at its ends. -/
def parseChars (text : List Char) : Except ExprFlaw TypeRef :=
  let marked := (splitMark text).2
  if marked ∧ (splitMark text).1.getLast? = some '!' then .error .nonNullTwice
  else
    match _hbody : (splitMark text).1 with
    | '[' :: afterBracket =>
      match _hinner : stripLast? ']' afterBracket with
      | none => .error .unclosedList
      | some inner => do
        let item ← parseChars (Text.trim inner)
        return mark marked (.list item)
    | body =>
      match Name.flawOf? body with
      | some flaw => .error (.name flaw)
      | none => .ok (mark marked (.named (String.ofList body)))
  termination_by text.length
  decreasing_by
    have h1 := length_splitMark_le text
    rw [_hbody] at h1
    have h2 := length_of_stripLast? _hinner
    have h3 := Text.length_trim_le inner
    simp only [List.length_cons] at h1
    omega

/-- A text that is no type expression, with the reason. -/
structure ExprError where
  expression : String
  flaw : ExprFlaw
  deriving DecidableEq, Repr

def ExprError.message (e : ExprError) : String :=
  "invalid type expression `" ++ e.expression ++ "`: " ++ e.flaw.message

/-- Reads a type expression; blanks around it are ignored. -/
def parse (expression : String) : Except ExprError TypeRef :=
  match parseChars (Text.trim expression.toList) with
  | .ok type => .ok type
  | .error flaw => .error ⟨expression, flaw⟩

end TypeRef

end GraphSchema
