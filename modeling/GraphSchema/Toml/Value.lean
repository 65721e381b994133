import GraphSchema.OrderedMap
import GraphSchema.Text.Span
import GraphSchema.Toml.Scalar

/-!
# Documents

The values of a TOML document, and how its lines build them. A header names a table once; a table
that was only implied by a longer header may still be named. Tables made by dotted keys are
extended by dotted keys alone, and what is written as a value is closed.
-/

namespace GraphSchema.Toml

inductive Value where
  /-- A string, and where it stands with its quotes. -/
  | string (value : String) (span : Text.Span)
  | scalar (value : Scalar)
  /-- An array, and where it stands with its brackets if it was written as one. -/
  | array (items : List Value) (span : Option Text.Span)
  | table (entries : List (String × Value))
  deriving Inhabited

abbrev Table := List (String × Value)

/-- Where a string or a written array stands. -/
def Value.span? : Value → Option Text.Span
  | .string _ span => some span
  | .array _ span => span
  | _ => none

mutual

/-- Whether every scalar of a value, however deep, passes a test. -/
def Value.allScalars (test : Scalar → Bool) : Value → Bool
  | .string _ _ => true
  | .scalar scalar => test scalar
  | .array items _ => itemsAllScalars test items
  | .table entries => entriesAllScalars test entries

def itemsAllScalars (test : Scalar → Bool) : List Value → Bool
  | [] => true
  | item :: items => item.allScalars test && itemsAllScalars test items

def entriesAllScalars (test : Scalar → Bool) : List (String × Value) → Bool
  | [] => true
  | (_, value) :: entries => value.allScalars test && entriesAllScalars test entries

end

/-- A line of a document, or an entry of an inline table. -/
inductive Statement where
  | assign (path : List String) (value : Value)
  | header (path : List String)
  | arrayHeader (path : List String)

/-! ## Trees under construction -/

/-- How a table came about. -/
inductive Origin where
  /-- Named by a header. -/
  | named
  /-- Named only as part of a longer header. -/
  | implied
  /-- Made by a dotted key. -/
  | dotted
  deriving DecidableEq

inductive Tree where
  | leaf (value : Value)
  | table (origin : Origin) (entries : List (String × Tree))
  | tables (items : List (List (String × Tree)))
  deriving Inhabited

abbrev Branch := List (String × Tree)

mutual

/-- The finished value of a tree. -/
def Tree.toValue : Tree → Value
  | .leaf value => value
  | .table _ entries => .table (branchToTable entries)
  | .tables items => .array (branchesToValues items) none

def branchToTable : List (String × Tree) → List (String × Value)
  | [] => []
  | (key, tree) :: rest => (key, tree.toValue) :: branchToTable rest

def branchesToValues : List (List (String × Tree)) → List Value
  | [] => []
  | entries :: rest => .table (branchToTable entries) :: branchesToValues rest

end

/-- Changes the table at the end of a path. The tables on the way are made if they are missing.
An array of tables stands for its last table. -/
def descend (origin : Origin) (change : Origin → Branch → Option Branch) :
    List String → Origin → Branch → Option Branch
  | [], reached, branch => change reached branch
  | key :: path, _, branch =>
    match Entries.get? key branch with
    | none => do
      let entries ← descend origin change path origin []
      some (Entries.insert key (.table origin entries) branch)
    | some (.leaf _) => none
    | some (.table made entries) =>
      if origin = .dotted ∧ made = .named then none
      else do
        let entries ← descend origin change path made entries
        some (Entries.insert key (.table made entries) branch)
    | some (.tables items) => do
      let last ← items.getLast?
      let last ← descend origin change path .named last
      some (Entries.insert key (.tables (items.dropLast ++ [last])) branch)

/-- The key at the end of a path, and the path to it. -/
def splitLast (path : List String) : Option (List String × String) :=
  path.getLast?.map (path.dropLast, ·)

/-- Writes a value at the end of a dotted key. -/
def assign (path : List String) (value : Value) (branch : Branch) : Option Branch := do
  let (outer, key) ← splitLast path
  let write := fun (reached : Origin) (entries : Branch) =>
    if (reached == .dotted) == outer.isEmpty then none
    else if (Entries.get? key entries).isSome then none
    else some (entries ++ [(key, .leaf value)])
  descend .dotted write outer .named branch

/-- Opens the table that a header names. One that was implied moves to the end. -/
def openTable (path : List String) (branch : Branch) : Option Branch := do
  let (outer, key) ← splitLast path
  let create := fun (_ : Origin) (entries : Branch) =>
    match Entries.get? key entries with
    | none => some (entries ++ [(key, .table .named [])])
    | some (.table .implied inner) =>
      some (entries.filter (fun entry => entry.1 != key) ++ [(key, .table .named inner)])
    | some _ => none
  descend .implied create outer .named branch

/-- Opens a new table at the end of an array of tables. -/
def openElement (path : List String) (branch : Branch) : Option Branch := do
  let (outer, key) ← splitLast path
  let create := fun (_ : Origin) (entries : Branch) =>
    match Entries.get? key entries with
    | none => some (entries ++ [(key, .tables [[]])])
    | some (.tables items) => some (Entries.insert key (.tables (items ++ [[]])) entries)
    | some _ => none
  descend .implied create outer .named branch

/-- A document as far as it was read: its tables, and the header that is in force. -/
structure Draft where
  current : List String := []
  branch : Branch := []

def Draft.add (draft : Draft) : Statement → Option Draft
  | .assign path value => do
    let change := fun (_ : Origin) (entries : Branch) => assign path value entries
    let branch ← descend .implied change draft.current .named draft.branch
    some { draft with branch }
  | .header path => do
    let branch ← openTable path draft.branch
    some ⟨path, branch⟩
  | .arrayHeader path => do
    let branch ← openElement path draft.branch
    some ⟨path, branch⟩

/-- The table that statements build, unless one of them contradicts the ones before it. -/
def build (statements : List Statement) : Option Table := do
  let draft ← statements.foldlM Draft.add {}
  some (branchToTable draft.branch)

end GraphSchema.Toml
