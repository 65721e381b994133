import GraphSchema.Schema.TypeRef
import GraphSchema.Schema.Value
import GraphSchema.Toml.Value

/-!
# Reading values of a document

How a value of a document becomes a text, a list, a map, a record or one of several forms. Entries
are read in the order of the document, and the first that does not fit ends the reading. What is
wrong with a value is placed at the innermost entry or list that holds it.
-/

namespace GraphSchema.Authoring

/-- Why a value is not what is wanted in its place. -/
inductive Mismatch where
  | expression (error : TypeRef.ExprError) (span : Option Text.Span)
  | missingKey (key : String)
  | shape
  deriving DecidableEq, Repr

/-- Places a mismatch that has no place yet. -/
def Mismatch.within (span : Option Text.Span) : Mismatch → Mismatch
  | expression error none => expression error span
  | other => other

abbrev Reads (α : Type) := Toml.Value → Except Mismatch α

def text : Reads String
  | .string value _ => .ok value
  | _ => .error .shape

def boolean : Reads Bool
  | .scalar (.boolean value) => .ok value
  | _ => .error .shape

def listOf {α : Type} (item : Reads α) : Reads (List α)
  | .array items _ => items.mapM item
  | _ => .error .shape

/-- Reads the value of an entry. -/
def entryOf {α : Type} (read : Toml.Value → Except Mismatch α) (value : Toml.Value) :
    Except Mismatch α :=
  (read value).mapError (.within value.span?)

def mapOf {α : Type} (value : Reads α) : Reads (OrderedMap String α)
  | .table entries => do
    return .ofList (← entries.mapM fun entry => do return (entry.1, ← entryOf value entry.2))
  | _ => .error .shape

def typeExpression : Reads TypeRef
  | .string value _ => (TypeRef.parse value).mapError (.expression · none)
  | _ => .error .shape

/-! ## Raw values -/

/-- Whether a number is from `-2 ^ low` to below `2 ^ high`. -/
def inBits (low high : Nat) (value : Int) : Bool :=
  -Int.ofNat (Nat.pow 2 low) ≤ value && value < Int.ofNat (Nat.pow 2 high)

/-- Integers have 64 bits, and dates become texts. -/
def rawScalar : Toml.Scalar → Except Mismatch Value
  | .boolean value => .ok (.boolean value)
  | .integer (some value) =>
    if inBits 63 63 value then .ok (.int value) else .error .shape
  | .integer none => .error .shape
  | .float (some value) => .ok (.float value)
  | .float none => .error .shape
  | .datetime value => .ok (.string value.text)

/-- A table that begins with this key stands for the date that its value spells. -/
def datetimeKey : String := "$__toml_private_datetime"

/-- The text of a date that is spelled by a string. -/
def spelledDate : Toml.Value → Except Mismatch Value
  | .string value _ =>
    match Toml.Datetime.read? value.toList with
    | some date => .ok (.string date.text)
    | none => .error .shape
  | _ => .error .shape

mutual

def rawValue : Toml.Value → Except Mismatch Value
  | .string value _ => .ok (.string value)
  | .scalar value => rawScalar value
  | .array items _ => do return .list (← rawItems items)
  | .table [] => .ok (.object [])
  | .table ((key, value) :: entries) => do
    if key = datetimeKey then spelledDate value
    else
      let value ← rawValue value
      return .object ((key, value) :: (← rawEntries entries))

def rawItems : List Toml.Value → Except Mismatch (List Value)
  | [] => .ok []
  | item :: items => do
    let item ← rawValue item
    return item :: (← rawItems items)

def rawEntries : List (String × Toml.Value) → Except Mismatch (List (String × Value))
  | [] => .ok []
  | (key, value) :: entries => do
    let value ← rawValue value
    return (key, value) :: (← rawEntries entries)

end

/-! ## Values that are not asked for -/

/-- Whether a number has at most 128 bits. -/
def isSkippable : Toml.Scalar → Bool
  | .integer (some value) => inBits 127 128 value
  | .integer none => false
  | .float value => value.isSome
  | _ => true

/-- Passes over a value; its numbers must be in range all the same. -/
def skip (value : Toml.Value) : Except Mismatch Unit :=
  if value.allScalars isSkippable then .ok () else .error .shape

/-! ## One of several forms -/

/-- Whether a number has at most 64 bits. -/
def isKeepable : Toml.Scalar → Bool
  | .integer (some value) => inBits 63 64 value
  | .integer none => false
  | .float value => value.isSome
  | _ => true

/-- Reads a value in the first form that fits. What is wrong with each form is not told. -/
def oneOf {α : Type} (forms : List (Reads α)) : Reads α := fun value =>
  if value.allScalars isKeepable then
    match forms.findSome? fun form => (form value).toOption with
    | some found => .ok found
    | none => .error .shape
  else
    .error .shape

/-! ## Records -/

/-- A key of a record, and what its value changes. -/
structure Slot (α : Type) where
  key : String
  write : Toml.Value → α → Except Mismatch α
  /-- Whether a list of values may end before this one. -/
  trailing : Bool

def slot {α β : Type} (key : String) (read : Reads β) (put : β → α → α)
    (trailing : Bool := false) : Slot α where
  key
  write value record := do return put (← read value) record
  trailing

/-- Whether a record may be given as the list of its values. -/
inductive ListForm where
  | never
  /-- With one value for every key. -/
  | exact
  /-- With any values after the last one, which are not looked at. -/
  | loose
  deriving DecidableEq

structure Record (α : Type) where
  blank : α
  slots : List (Slot α)
  /-- The key that must be there, if any. -/
  required : Option String := none
  listForm : ListForm := .loose

namespace Record

variable {α : Type}

def writeEntry (slots : List (Slot α)) (record : α) (entry : String × Toml.Value) :
    Except Mismatch α :=
  match slots.find? (·.key == entry.1) with
  | some slot => entryOf (slot.write · record) entry.2
  | none => do
    skip entry.2
    return record

def writeItems : List (Slot α) → List Toml.Value → α → Except Mismatch α
  | [], _, record => .ok record
  | slot :: slots, item :: items, record => do
    let record ← slot.write item record
    writeItems slots items record
  | slot :: slots, [], record =>
    if slot.trailing then writeItems slots [] record else .error .shape

def ofEntries (r : Record α) (entries : Toml.Table) : Except Mismatch α := do
  let record ← entries.foldlM (writeEntry r.slots) r.blank
  match r.required with
  | some key =>
    if (Entries.get? key entries).isSome then return record else throw (.missingKey key)
  | none => return record

def ofItems (r : Record α) (items : List Toml.Value) (span : Option Text.Span) :
    Except Mismatch α :=
  (writeItems r.slots items r.blank).mapError (.within span)

/-- Reads a record. A date stands for a table without any of the keys. -/
def read (r : Record α) : Reads α
  | .table entries => r.ofEntries entries
  | .array items span =>
    match r.listForm with
    | .never => .error .shape
    | .exact =>
      if items.length = r.slots.length then r.ofItems items span else .error .shape
    | .loose => r.ofItems items span
  | .scalar (.datetime _) => r.ofEntries []
  | _ => .error .shape

end Record

end GraphSchema.Authoring
