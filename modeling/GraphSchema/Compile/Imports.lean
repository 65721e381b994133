import GraphSchema.Compile.Error

/-!
# Field imports

Every pending import copies the fields of its source into the importing type. A source's own
imports are resolved first, so borrowing is transitive. A field that is already there wins over a
borrowed one, and an earlier import over a later one.

The types are walked depth first along their imports. The walk ends because no type is entered
twice on one chain.
-/

namespace GraphSchema.Imports

/-- How far the walk has come: the types as they are now, and the names it need not enter again. -/
structure Progress where
  types : OrderedMap String TypeDef
  finished : List String

/-- A chain of imports that could not be resolved, innermost type first. -/
structure Failure where
  error : CompileError
  chain : List String
  progress : Progress

/-! ## One import -/

/-- The name of the type that an import reads from. -/
def source? (schema : Schema) (request : FieldImport) : Option String :=
  match schema.find? request.source with
  | none => none
  | some type =>
    match request.moduleName with
    | none => some type.name
    | some name => if type.moduleName = some name then some type.name else none

/-- The fields that an import copies from its source. -/
def borrow (progress : Progress) (source : String) (request : FieldImport) :
    Except CompileError (List Field) :=
  match progress.types.get? source with
  | none => .error (.schema (.unknownType source))
  | some type =>
    match type.fields? with
    | none => .error (.schema (.notAFieldContainer source type.kind))
    | some fields => .ok (fields.values.filter fun field => field.name ∉ request.except)

/-- Adds borrowed fields under a new parent, those that are not there yet. -/
def addBorrowed (parent : String) (fields : FieldMap) (borrowed : List Field) : FieldMap :=
  borrowed.foldl (fun fields field => fields.insertNew field.name { field with parent }) fields

/-- The type with its imports resolved. -/
def settle (name : String) (borrowed : List Field) (type : TypeDef) : TypeDef :=
  let body := type.body.dropImports
  match body.fields? with
  | none => { type with body }
  | some fields => { type with body := body.setFields (addBorrowed name fields borrowed) }

/-- The types from the first visit of `name` to the second one. -/
def cyclePath (chain : List String) (name : String) : List String :=
  (chain.takeWhile (· != name) ++ [name]).reverse ++ [name]

/-! ## The walk -/

/-- How many types are not on the chain. -/
def free (schema : Schema) (chain : List String) : Nat :=
  (schema.types.keys.filter fun key => key ∉ chain).length

theorem free_cons_lt {schema : Schema} {chain : List String} {name : String}
    (hfound : (schema.find? name).isSome) (hnew : name ∉ chain) :
    free schema (name :: chain) < free schema chain := by
  have hmem : name ∈ schema.types.keys := OrderedMap.contains_iff.1 hfound
  unfold free
  have hsplit : (schema.types.keys.filter fun key => key ∉ name :: chain) =
      (schema.types.keys.filter fun key => key ∉ chain).filter fun key => key ≠ name := by
    rw [List.filter_filter]
    congr 1
    funext key
    by_cases h : key = name <;> simp [h]
  rw [hsplit]
  apply List.length_filter_lt_length_iff_exists.2
  exact ⟨name, List.mem_filter.2 ⟨hmem, by simpa using hnew⟩, by simp⟩

mutual

/-- Resolves the imports of one type, entered along `chain`. -/
def resolve (schema : Schema) (chain : List String) (name : String) (progress : Progress) :
    Except Failure Progress :=
  if name ∈ progress.finished then .ok progress
  else if _hnew : name ∈ chain then .error ⟨.importCycle (cyclePath chain name), chain, progress⟩
  else
    match _hfound : schema.find? name with
    | none => .ok { progress with finished := name :: progress.finished }
    | some type =>
      match collect schema (name :: chain) name type.imports progress [] with
      | .error failure => .error failure
      | .ok (progress, borrowed) =>
        .ok ⟨progress.types.modify name (settle name borrowed), name :: progress.finished⟩
  termination_by (free schema chain, 0)
  decreasing_by
    exact Prod.Lex.left _ _ (free_cons_lt (by simp [_hfound]) _hnew)

/-- Resolves the sources of imports one after the other and collects what they lend. -/
def collect (schema : Schema) (chain : List String) (importer : String) :
    List FieldImport → Progress → List Field → Except Failure (Progress × List Field)
  | [], progress, borrowed => .ok (progress, borrowed)
  | request :: rest, progress, borrowed =>
    match source? schema request with
    | none =>
      let place := Place.fieldImport importer request.moduleName
      .error ⟨.unknownType request.source place, chain, progress⟩
    | some source =>
      match resolve schema chain source progress with
      | .error failure => .error failure
      | .ok progress =>
        match borrow progress source request with
        | .error error => .error ⟨error, chain, progress⟩
        | .ok fields => collect schema chain importer rest progress (borrowed ++ fields)
  termination_by requests => (free schema chain, requests.length + 1)
  decreasing_by
    · exact Prod.Lex.right _ (by simp)
    · exact Prod.Lex.right _ (by simp)

end

/-- Resolves one type from the start. The types of a chain that fails count as finished, so that
they are not reported again. -/
def start (schema : Schema) (state : Progress × List CompileError) (name : String) :
    Progress × List CompileError :=
  match resolve schema [] name state.1 with
  | .ok progress => (progress, state.2)
  | .error ⟨error, chain, progress⟩ =>
    ({ progress with finished := chain ++ progress.finished }, state.2 ++ [error])

/-- The types that have imports, in registration order. -/
def pending (schema : Schema) : List String :=
  (schema.typeList.filter (!·.imports.isEmpty)).map (·.name)

/-- The schema with every import resolved, or one error for each chain that failed. -/
def run (schema : Schema) : Checked Schema :=
  let (progress, errors) := (pending schema).foldl (start schema) (⟨schema.types, []⟩, [])
  Checked.unless errors { schema with types := progress.types }

end GraphSchema.Imports
