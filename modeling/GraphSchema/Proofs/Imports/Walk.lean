import Mathlib
import GraphSchema.Compile.Imports

/-!
# The walk along imports

A successful walk leaves every finished type with its imports resolved against the types as they
stand, and never touches it again. `resolve_advances` says so of one entry of the walk and
`run_walked` of the whole run.
-/

namespace GraphSchema.Imports

/-! ## Named types -/

/-- An import reads from the registered type that it names, if that has the module it names. -/
theorem source?_eq_some_iff {schema : Schema} (h : schema.types.KeyedBy TypeDef.name)
    {request : FieldImport} {source : String} :
    source? schema request = some source ↔ source = request.source ∧
      ∃ type, schema.find? request.source = some type ∧
        ∀ moduleName ∈ request.moduleName, type.moduleName = some moduleName := by
  unfold source?
  cases hfound : schema.find? request.source with
  | none => simp
  | some type =>
    have hname : type.name = request.source := h.of_get? hfound
    cases hmodule : request.moduleName with
    | none => simp [hname, eq_comm]
    | some moduleName => by_cases heq : type.moduleName = some moduleName <;>
        simp [heq, hname, eq_comm]

theorem mem_pending_iff {schema : Schema} {name : String} :
    name ∈ pending schema ↔
      ∃ key type, schema.find? key = some type ∧ type.imports ≠ [] ∧ type.name = name := by
  simp only [pending, List.mem_map, List.mem_filter, Schema.typeList, OrderedMap.mem_values_iff]
  constructor
  · rintro ⟨type, ⟨⟨key, hfound⟩, himports⟩, rfl⟩
    exact ⟨key, type, hfound, by simpa using himports, rfl⟩
  · rintro ⟨key, type, hfound, himports, rfl⟩
    exact ⟨type, ⟨⟨key, hfound⟩, by simpa using himports⟩, rfl⟩

theorem mem_pending {schema : Schema} (h : schema.types.KeyedBy TypeDef.name) {name : String}
    {type : TypeDef} (hfound : schema.find? name = some type) (himports : type.imports ≠ []) :
    name ∈ pending schema :=
  mem_pending_iff.2 ⟨name, type, hfound, himports, h.of_get? hfound⟩

/-! ## Resolved types -/

/-- The fields that an import takes from its source, as the types stand. -/
def loan (schema : Schema) (types : OrderedMap String TypeDef) (request : FieldImport) :
    List Field :=
  match (source? schema request).bind types.get? with
  | some type => type.fieldList.filter fun field => field.name ∉ request.except
  | none => []

/-- A type with its imports resolved against the types as they stand. -/
def resolved (schema : Schema) (types : OrderedMap String TypeDef) (name : String)
    (type : TypeDef) : TypeDef :=
  settle name (type.imports.flatMap (loan schema types)) type

/-- The import reads from a finished type, which has fields. -/
def Served (schema : Schema) (finished : List String) (request : FieldImport) : Prop :=
  ∃ source lender, source? schema request = some source ∧ source ∈ finished ∧
    schema.find? source = some lender ∧ lender.fields?.isSome

/-- A type lends to the types that import from it. -/
def Lends (schema : Schema) (source importer : String) : Prop :=
  ∃ type, schema.find? importer = some type ∧
    ∃ request ∈ type.imports, source? schema request = some source

theorem Served.mono {schema : Schema} {finished more : List String} {request : FieldImport}
    (h : Served schema finished request) (hsub : finished ⊆ more) : Served schema more request := by
  obtain ⟨source, lender, hsource, hmem, hfound, hfields⟩ := h
  exact ⟨source, lender, hsource, hsub hmem, hfound, hfields⟩

theorem loan_congr {schema : Schema} {types others : OrderedMap String TypeDef}
    {finished : List String} {request : FieldImport} (hserved : Served schema finished request)
    (hsame : ∀ name ∈ finished, others.get? name = types.get? name) :
    loan schema others request = loan schema types request := by
  obtain ⟨source, lender, hsource, hmem, -, -⟩ := hserved
  simp only [loan, hsource, Option.bind_some, hsame source hmem]

theorem resolved_congr {schema : Schema} {types others : OrderedMap String TypeDef}
    {finished : List String} {type : TypeDef}
    (hserved : ∀ request ∈ type.imports, Served schema finished request)
    (hsame : ∀ name ∈ finished, others.get? name = types.get? name) (name : String) :
    resolved schema others name type = resolved schema types name type := by
  have hloans : type.imports.flatMap (loan schema others) =
      type.imports.flatMap (loan schema types) :=
    List.flatMap_congr fun request hrequest => loan_congr (hserved request hrequest) hsame
  rw [resolved, resolved, hloans]

@[simp] theorem fields?_settle (name : String) (borrowed : List Field) (type : TypeDef) :
    (settle name borrowed type).fields? = type.fields?.map (addBorrowed name · borrowed) := by
  cases hfields : type.body.fields? <;> simp [settle, TypeDef.fields?, hfields]

@[simp] theorem imports_settle (name : String) (borrowed : List Field) (type : TypeDef) :
    (settle name borrowed type).imports = [] := by
  cases hfields : type.body.fields? <;> simp [settle, TypeDef.imports, hfields]

theorem settle_nil {type : TypeDef} (h : type.imports = []) (name : String) :
    settle name [] type = type := by
  have hbody : type.body.dropImports = type.body := TypeBody.dropImports_eq_self h
  cases hfields : type.body.fields? with
  | none => simp [settle, hbody, hfields]
  | some fields => simp [settle, hbody, hfields, addBorrowed, TypeBody.setFields_eq_self hfields]

/-! ## States of the walk -/

/-- What holds of the types between two entries of a walk that has not failed. -/
structure Walked (schema : Schema) (progress : Progress) : Prop where
  keys : progress.types.keys = schema.types.keys
  waiting : ∀ name ∉ progress.finished, progress.types.get? name = schema.find? name
  settled : ∀ name ∈ progress.finished,
    progress.types.get? name = (schema.find? name).map (resolved schema progress.types name)
  served : ∀ name ∈ progress.finished, ∀ type, schema.find? name = some type →
    ∀ request ∈ type.imports, Served schema progress.finished request
  grounded : ∀ name ∈ progress.finished, Acc (Lends schema) name

/-- A later state, in which nothing that was finished has changed. -/
structure Extends (progress later : Progress) : Prop where
  finished : progress.finished ⊆ later.finished
  types : ∀ name ∈ progress.finished, later.types.get? name = progress.types.get? name

theorem Extends.refl (progress : Progress) : Extends progress progress :=
  ⟨fun _ h => h, fun _ _ => rfl⟩

theorem Extends.trans {first second third : Progress} (h : Extends first second)
    (h' : Extends second third) : Extends first third := by
  refine ⟨fun _ hname => h'.finished (h.finished hname), ?_⟩
  intro name hname
  rw [h'.types name (h.finished hname), h.types name hname]

theorem walked_start (schema : Schema) : Walked schema ⟨schema.types, []⟩ where
  keys := rfl
  waiting := fun _ _ => rfl
  settled := by simp
  served := by simp
  grounded := by simp

/-- No chain of imports goes on for ever from a type that reads from finished types only. -/
theorem acc_of_served {schema : Schema} {finished : List String} {name : String} {type : TypeDef}
    (hfound : schema.find? name = some type)
    (hserved : ∀ request ∈ type.imports, Served schema finished request)
    (hgrounded : ∀ other ∈ finished, Acc (Lends schema) other) : Acc (Lends schema) name := by
  constructor
  rintro source ⟨found, hfound', request, hrequest, hsource⟩
  obtain rfl : found = type := Option.some.inj (hfound'.symm.trans hfound)
  obtain ⟨served, _, hserved', hmem, -⟩ := hserved request hrequest
  obtain rfl : served = source := Option.some.inj (hserved'.symm.trans hsource)
  exact hgrounded served hmem

/-- The state after a type was settled whose imports read from finished types. -/
theorem Walked.finish {schema : Schema} {progress : Progress} {name : String} {type : TypeDef}
    (h : Walked schema progress) (hnew : name ∉ progress.finished)
    (hfound : schema.find? name = some type)
    (hserved : ∀ request ∈ type.imports, Served schema progress.finished request) :
    Walked schema ⟨progress.types.modify name
      (settle name (type.imports.flatMap (loan schema progress.types))),
      name :: progress.finished⟩ := by
  -- No finished type is touched, so what it resolved to stays as it is.
  have hsame : ∀ other ∈ progress.finished,
      (progress.types.modify name
        (settle name (type.imports.flatMap (loan schema progress.types)))).get? other =
        progress.types.get? other := by
    intro other hother
    apply OrderedMap.get?_modify_of_ne
    rintro rfl
    exact hnew hother
  refine ⟨?_, ?_, ?_, ?_, ?_⟩
  · rw [OrderedMap.keys_modify, h.keys]
  · intro other hother
    rw [List.mem_cons, not_or] at hother
    rw [OrderedMap.get?_modify_of_ne _ hother.1, h.waiting other hother.2]
  · intro other hother
    rcases List.mem_cons.1 hother with rfl | hother
    · rw [OrderedMap.get?_modify_self, h.waiting other hnew, hfound, Option.map_some,
        Option.map_some, resolved_congr hserved hsame, resolved]
    · rw [hsame other hother, h.settled other hother]
      cases hother' : schema.find? other with
      | none => rfl
      | some found =>
        rw [Option.map_some, Option.map_some,
          resolved_congr (h.served other hother found hother') hsame]
  · intro other hother found hother' request hrequest
    apply Served.mono _ (List.subset_cons_self name progress.finished)
    rcases List.mem_cons.1 hother with rfl | hother
    · obtain rfl : found = type := Option.some.inj (hother'.symm.trans hfound)
      exact hserved request hrequest
    · exact h.served other hother found hother' request hrequest
  · intro other hother
    rcases List.mem_cons.1 hother with rfl | hother
    · exact acc_of_served hfound hserved h.grounded
    · exact h.grounded other hother

theorem Walked.skip {schema : Schema} {progress : Progress} {name : String}
    (h : Walked schema progress) (hnew : name ∉ progress.finished)
    (hnone : schema.find? name = none) :
    Walked schema { progress with finished := name :: progress.finished } := by
  refine ⟨h.keys, ?_, ?_, ?_, ?_⟩
  · intro other hother
    exact h.waiting other fun hmem => hother (List.mem_cons_of_mem _ hmem)
  · intro other hother
    rcases List.mem_cons.1 hother with rfl | hother
    · rw [h.waiting other hnew, hnone]; rfl
    · exact h.settled other hother
  · intro other hother found hfound request hrequest
    rcases List.mem_cons.1 hother with rfl | hother
    · rw [hnone] at hfound; cases hfound
    · exact (h.served other hother found hfound request hrequest).mono
        (List.subset_cons_self name _)
  · intro other hother
    rcases List.mem_cons.1 hother with rfl | hother
    · constructor
      rintro source ⟨found, hfound, -⟩
      rw [hnone] at hfound; cases hfound
    · exact h.grounded other hother

/-! ## One entry -/

/-- What every successful entry has that its steps have. `Entry` speaks of the chain, the name and
the states before and after; `Round` of the chain, the requests, and the states before and after
with the fields collected by then. -/
theorem resolve_induction {schema : Schema}
    (Entry : List String → String → Progress → Progress → Prop)
    (Round : List String → List FieldImport → Progress → List Field → Progress → List Field → Prop)
    (hdone : ∀ chain name progress, name ∈ progress.finished → Entry chain name progress progress)
    (habsent : ∀ chain name progress, name ∉ progress.finished → name ∉ chain →
      schema.find? name = none →
      Entry chain name progress { progress with finished := name :: progress.finished })
    (henter : ∀ chain name progress type later borrowed, name ∉ progress.finished →
      name ∉ chain → schema.find? name = some type →
      Round (name :: chain) type.imports progress [] later borrowed →
      Entry chain name progress
        ⟨later.types.modify name (settle name borrowed), name :: later.finished⟩)
    (hnil : ∀ chain progress borrowed, Round chain [] progress borrowed progress borrowed)
    (hcons : ∀ chain request rest source progress between later fields borrowed all,
      source? schema request = some source → Entry chain source progress between →
      borrow between source request = .ok fields →
      Round chain rest between (borrowed ++ fields) later all →
      Round chain (request :: rest) progress borrowed later all)
    {chain : List String} {name : String} {progress later : Progress}
    (h : resolve schema chain name progress = .ok later) : Entry chain name progress later := by
  have hboth := resolve.mutual_induct_unfolding schema
    (fun chain name progress outcome => ∀ later, outcome = .ok later →
      Entry chain name progress later)
    (fun chain _ requests progress borrowed outcome => ∀ later all, outcome = .ok (later, all) →
      Round chain requests progress borrowed later all)
  refine (hboth ?_ ?_ ?_ ?_ ?_ ?_ ?_ ?_ ?_ ?_).1 chain name progress later h
  · rintro chain name progress hmem later ⟨⟩
    exact hdone chain name progress hmem
  · rintro chain name progress - - later ⟨⟩
  · rintro chain name progress hnew hchain hnone later ⟨⟩
    exact habsent chain name progress hnew hchain hnone
  · rintro chain name progress - - type - failure - - later ⟨⟩
  · rintro chain name progress hnew hchain type hfound between borrowed hcollect ih later ⟨⟩
    exact henter chain name progress type between borrowed hnew hchain hfound
      (ih between borrowed hcollect)
  · rintro chain importer progress borrowed later all ⟨⟩
    exact hnil chain progress borrowed
  · rintro chain importer request rest progress borrowed - place later all ⟨⟩
  · rintro chain importer request rest progress borrowed source - failure - - later all ⟨⟩
  · rintro chain importer request rest progress borrowed source - between - error - - later all ⟨⟩
  · rintro chain importer request rest progress borrowed source hsource between hresolve fields
      hborrow ihentry ihround later all hcollect
    exact hcons chain request rest source progress between later fields borrowed all hsource
      (ihentry between hresolve) hborrow (ihround later all hcollect)

theorem borrow_eq_ok {progress : Progress} {source : String} {request : FieldImport}
    {fields : List Field} (h : borrow progress source request = .ok fields) :
    ∃ type, progress.types.get? source = some type ∧ type.fields?.isSome ∧
      fields = type.fieldList.filter fun field => field.name ∉ request.except := by
  unfold borrow at h
  split at h
  · cases h
  · rename_i type hfound
    split at h
    · cases h
    · rename_i map hfields
      cases h
      exact ⟨type, hfound, by simp [hfields], by simp [TypeDef.fieldList, hfields]⟩

/-- A part of a walk that did not fail: it keeps the invariant, finishes no type that it was
entered along, and leaves alone what was finished before. -/
structure Advances (schema : Schema) (chain : List String) (progress later : Progress) : Prop where
  walked : Walked schema later
  frame : Extends progress later
  chain : ∀ name ∈ chain, name ∉ progress.finished → name ∉ later.finished

theorem Advances.refl {schema : Schema} {progress : Progress} (h : Walked schema progress)
    (chain : List String) : Advances schema chain progress progress :=
  ⟨h, Extends.refl progress, fun _ _ h => h⟩

theorem Advances.trans {schema : Schema} {chain : List String} {first second third : Progress}
    (h : Advances schema chain first second) (h' : Advances schema chain second third) :
    Advances schema chain first third :=
  ⟨h'.walked, h.frame.trans h'.frame,
    fun name hname hnew => h'.chain name hname (h.chain name hname hnew)⟩

/-- The source that was borrowed from serves the import, and lent what it still lends later. -/
theorem Walked.lend {schema : Schema} {progress : Progress} {source : String}
    {request : FieldImport} {fields : List Field} (h : Walked schema progress)
    (hsource : source? schema request = some source) (hmem : source ∈ progress.finished)
    (hborrow : borrow progress source request = .ok fields) :
    Served schema progress.finished request ∧ fields = loan schema progress.types request := by
  obtain ⟨type, hfound, hfields, rfl⟩ := borrow_eq_ok hborrow
  refine ⟨?_, by simp [loan, hsource, hfound]⟩
  rw [h.settled source hmem, Option.map_eq_some_iff] at hfound
  obtain ⟨lender, hlender, rfl⟩ := hfound
  rw [resolved, fields?_settle, Option.isSome_map] at hfields
  exact ⟨source, lender, hsource, hmem, hlender, hfields⟩

theorem resolve_advances {schema : Schema} {chain : List String} {name : String}
    {progress later : Progress} (h : resolve schema chain name progress = .ok later) :
    Walked schema progress → Advances schema chain progress later ∧ name ∈ later.finished := by
  refine resolve_induction
    (fun chain name progress later => Walked schema progress →
      Advances schema chain progress later ∧ name ∈ later.finished)
    (fun chain requests progress borrowed later all => Walked schema progress →
      Advances schema chain progress later ∧
      (∀ request ∈ requests, Served schema later.finished request) ∧
      all = borrowed ++ requests.flatMap (loan schema later.types)) ?_ ?_ ?_ ?_ ?_ h
  · intro chain name progress hmem hwalked
    exact ⟨Advances.refl hwalked chain, hmem⟩
  · intro chain name progress hnew hchain hnone hwalked
    refine ⟨⟨hwalked.skip hnew hnone, ⟨List.subset_cons_self _ _, fun _ _ => rfl⟩, ?_⟩, by simp⟩
    intro other hother hout
    rw [List.mem_cons, not_or]
    exact ⟨fun heq => hchain (heq ▸ hother), hout⟩
  · intro chain name progress type later borrowed hnew hchain hfound ih hwalked
    obtain ⟨hadvances, hserved, rfl⟩ := ih hwalked
    have hnew' : name ∉ later.finished := hadvances.chain name List.mem_cons_self hnew
    refine ⟨⟨hadvances.walked.finish hnew' hfound hserved, ⟨?_, ?_⟩, ?_⟩, List.mem_cons_self⟩
    · exact fun other hother => List.mem_cons_of_mem _ (hadvances.frame.finished hother)
    · intro other hother
      rw [OrderedMap.get?_modify_of_ne, hadvances.frame.types other hother]
      rintro rfl
      exact hnew hother
    · intro other hother hout
      rw [List.mem_cons, not_or]
      exact ⟨fun heq => hchain (heq ▸ hother),
        hadvances.chain other (List.mem_cons_of_mem _ hother) hout⟩
  · intro chain progress borrowed hwalked
    exact ⟨Advances.refl hwalked chain, by simp, by simp⟩
  · intro chain request rest source progress between later fields borrowed all hsource ihentry
      hborrow ihround hwalked
    obtain ⟨hfirst, hmem⟩ := ihentry hwalked
    obtain ⟨hrest, hserved, rfl⟩ := ihround hfirst.walked
    obtain ⟨hserved', rfl⟩ := hfirst.walked.lend hsource hmem hborrow
    refine ⟨hfirst.trans hrest, ?_, ?_⟩
    · intro other hother
      rcases List.mem_cons.1 hother with rfl | hother
      · exact hserved'.mono hrest.frame.finished
      · exact hserved other hother
    · rw [List.flatMap_cons, loan_congr hserved' hrest.frame.types, List.append_assoc]

/-! ## The whole run -/

theorem start_eq_ok {schema : Schema} {state : Progress × List CompileError} {name : String}
    (h : (start schema state name).2 = []) :
    state.2 = [] ∧ resolve schema [] name state.1 = .ok (start schema state name).1 := by
  unfold start at h ⊢
  split at h
  · rename_i progress hresolve
    exact ⟨h, by simp [hresolve]⟩
  · simp at h

theorem errors_eq_nil_of_foldl_start {schema : Schema} (names : List String)
    {state : Progress × List CompileError} (h : (names.foldl (start schema) state).2 = []) :
    state.2 = [] := by
  induction names generalizing state with
  | nil => exact h
  | cons name rest ih => exact (start_eq_ok (ih h)).1

theorem foldl_start_advances {schema : Schema} (names : List String)
    {state : Progress × List CompileError} (hwalked : Walked schema state.1)
    (h : (names.foldl (start schema) state).2 = []) :
    Advances schema [] state.1 (names.foldl (start schema) state).1 ∧
      ∀ name ∈ names, name ∈ (names.foldl (start schema) state).1.finished := by
  induction names generalizing state with
  | nil => exact ⟨Advances.refl hwalked [], by simp⟩
  | cons name rest ih =>
    have hresolve := (start_eq_ok (errors_eq_nil_of_foldl_start rest h)).2
    obtain ⟨hfirst, hmem⟩ := resolve_advances hresolve hwalked
    obtain ⟨hrest, hfinished⟩ := ih hfirst.walked h
    refine ⟨hfirst.trans hrest, ?_⟩
    intro other hother
    rcases List.mem_cons.1 hother with rfl | hother
    · exact hrest.frame.finished hmem
    · exact hfinished other hother

/-- Entries that succeed and keep an invariant make a run that succeeds and keeps it. -/
theorem foldl_start_of_entries {schema : Schema} {Inv : Progress → Prop} (names : List String)
    (h : ∀ name ∈ names, ∀ progress, Inv progress →
      ∃ later, resolve schema [] name progress = .ok later ∧ Inv later)
    {progress : Progress} (hinv : Inv progress) :
    ∃ later, names.foldl (start schema) (progress, []) = (later, []) ∧ Inv later := by
  induction names generalizing progress with
  | nil => exact ⟨progress, rfl, hinv⟩
  | cons name rest ih =>
    obtain ⟨later, hlater, hinv'⟩ := h name List.mem_cons_self progress hinv
    have hstart : start schema (progress, []) name = (later, []) := by
      simp only [start, hlater]
    rw [List.foldl_cons, hstart]
    exact ih (fun other hother => h other (List.mem_cons_of_mem _ hother)) hinv'

theorem run_of_entries {schema : Schema} {Inv : Progress → Prop}
    (h : ∀ name ∈ pending schema, ∀ progress, Inv progress →
      ∃ later, resolve schema [] name progress = .ok later ∧ Inv later)
    (hinv : Inv ⟨schema.types, []⟩) :
    ∃ progress, run schema = .ok { schema with types := progress.types } ∧ Inv progress := by
  obtain ⟨later, hlater, hinv'⟩ := foldl_start_of_entries (pending schema) h hinv
  refine ⟨later, ?_, hinv'⟩
  simp only [run, hlater]
  rfl

theorem foldl_start_keeps {schema : Schema} {Inv : Progress → Prop}
    (hentry : ∀ name progress later, resolve schema [] name progress = .ok later →
      Inv progress → Inv later)
    (names : List String) {state : Progress × List CompileError} (hinv : Inv state.1)
    (h : (names.foldl (start schema) state).2 = []) :
    Inv (names.foldl (start schema) state).1 := by
  induction names generalizing state with
  | nil => exact hinv
  | cons name rest ih =>
    have hresolve := (start_eq_ok (errors_eq_nil_of_foldl_start rest h)).2
    exact ih (hentry name _ _ hresolve hinv) h

/-- What every entry that succeeds keeps is kept by a run that succeeds. -/
theorem run_keeps {schema result : Schema} {Inv : Progress → Prop}
    (hentry : ∀ name progress later, resolve schema [] name progress = .ok later →
      Inv progress → Inv later)
    (hinv : Inv ⟨schema.types, []⟩) (h : run schema = .ok result) :
    ∃ progress, result = { schema with types := progress.types } ∧ Inv progress := by
  obtain ⟨herrors, rfl⟩ := Checked.unless_eq_ok_iff.1 h
  exact ⟨_, rfl, foldl_start_keeps hentry (pending schema) hinv herrors⟩

theorem run_walked {schema result : Schema} (h : run schema = .ok result) :
    ∃ progress, Walked schema progress ∧ (∀ name ∈ pending schema, name ∈ progress.finished) ∧
      result = { schema with types := progress.types } := by
  obtain ⟨herrors, rfl⟩ := Checked.unless_eq_ok_iff.1 h
  obtain ⟨hadvances, hfinished⟩ :=
    foldl_start_advances (pending schema) (walked_start schema) herrors
  exact ⟨_, hadvances.walked, hfinished, rfl⟩

/-- A run changes nothing but types, and neither their names nor their order. -/
theorem run_frame {schema result : Schema} (h : run schema = .ok result) :
    result.roots = schema.roots ∧ result.behaviors = schema.behaviors ∧
      result.types.keys = schema.types.keys := by
  obtain ⟨progress, hwalked, -, rfl⟩ := run_walked h
  exact ⟨rfl, rfl, hwalked.keys⟩

end GraphSchema.Imports
