import GraphSchema.Compile.Lowering
import GraphSchema.Results

/-!
# Lowered modules

The declarations of several modules make one list, and so do their roots. What is in conflict with
something earlier in its list is reported, once each. Without conflicts the schema has one type for
each declaration, in order.
-/

namespace GraphSchema

/-! ## Declarations -/

/-- The kind of the type that a declaration makes. -/
def DeclKind.typeKind : DeclKind → TypeKind
  | object => .object
  | interface => .interface
  | union => .union
  | enum => .enum
  | input => .inputObject
  | scalar => .scalar

/-- A declared type, with the module that declares it. -/
structure Declaration where
  moduleName : String
  kind : DeclKind
  identifier : String

def Declaration.typeName (d : Declaration) : String := Name.typeName d.identifier

namespace Lowering

def declarations (modules : List SchemaModule) : List Declaration :=
  modules.flatMap fun m => m.declarations.map fun (kind, identifier) => ⟨m.name, kind, identifier⟩

/-- The root types that the modules declare, by their names in the schema. -/
def declaredRoots (modules : List SchemaModule) : List (Operation × String) :=
  modules.flatMap fun m =>
    m.roots.declared.map fun (operation, identifier) => (operation, Name.typeName identifier)

/-! ## Conflicts -/

/-- The names that are taken from the start or by an earlier name of the list. -/
def repeats (taken names : List String) : List String :=
  (names.zipIdx.filter fun (name, i) => name ∈ taken ++ names.take i).map Prod.fst

def firstRoot? (roots : List (Operation × String)) (operation : Operation) : Option String :=
  (roots.find? (·.1 = operation)).map Prod.snd

/-- The error of a root that differs from the first one of its operation. -/
def rootConflict? (roots : List (Operation × String)) (root : Operation × String) :
    Option CompileError :=
  ((firstRoot? roots root.1).filter (· ≠ root.2)).map (.duplicateRoot root.1 · root.2)

/-- Every conflict among the declarations of the modules, with its error. -/
def conflicts (modules : List SchemaModule) : List CompileError :=
  (declaredRoots modules).filterMap (rootConflict? (declaredRoots modules)) ++
    (repeats builtinScalars ((declarations modules).map Declaration.typeName)).map
      fun name => .schema (.duplicateType name)

theorem repeats_concat (taken names : List String) (name : String) :
    repeats taken (names ++ [name]) =
      repeats taken names ++ if name ∈ taken ++ names then [name] else [] := by
  -- What stands before an old name is the same in both lists.
  have hbefore : ∀ item ∈ names.zipIdx, (names ++ [name]).take item.2 = names.take item.2 := by
    intro item hitem
    have hlt := List.snd_lt_of_mem_zipIdx hitem
    exact List.take_append_of_le_length (by omega)
  unfold repeats
  rw [List.zipIdx_append, List.filter_append, List.map_append]
  congr 1
  · congr 1
    apply List.filter_congr
    rintro ⟨other, i⟩ hitem
    dsimp only
    rw [hbefore (other, i) hitem]
  · rw [Nat.zero_add, List.zipIdx_singleton, List.filter_singleton]
    dsimp only
    rw [List.take_left]
    by_cases h : name ∈ taken ++ names
    · rw [if_pos h, decide_eq_true h]
      rfl
    · rw [if_neg h, decide_eq_false h]
      rfl

theorem mem_repeats_iff {taken names : List String} {name : String} :
    name ∈ repeats taken names ↔
      ∃ i : Nat, names[i]? = some name ∧
        (name ∈ taken ∨ ∃ j : Nat, j < i ∧ names[j]? = some name) := by
  have htake : ∀ i : Nat, name ∈ names.take i ↔ ∃ j : Nat, j < i ∧ names[j]? = some name := by
    intro i
    rw [List.mem_iff_getElem?]
    refine exists_congr fun j => ?_
    rw [List.getElem?_take]
    by_cases hj : j < i <;> simp [hj]
  constructor
  · intro h
    obtain ⟨⟨other, i⟩, hitem, rfl⟩ := List.mem_map.1 h
    obtain ⟨hget, hrepeat⟩ := List.mem_filter.1 hitem
    rw [decide_eq_true_eq, List.mem_append, htake] at hrepeat
    exact ⟨i, List.mem_zipIdx_iff_getElem?.1 hget, hrepeat⟩
  · rintro ⟨i, hget, hrepeat⟩
    rw [← htake, ← List.mem_append] at hrepeat
    refine List.mem_map.2 ⟨(name, i), List.mem_filter.2 ⟨?_, ?_⟩, rfl⟩
    · exact List.mem_zipIdx_iff_getElem?.2 hget
    · exact decide_eq_true hrepeat

theorem repeats_eq_nil_iff {taken names : List String} :
    repeats taken names = [] ↔ names.Nodup ∧ ∀ name ∈ names, name ∉ taken := by
  induction names using List.reverseRecOn with
  | nil => simp [repeats]
  | append_singleton names name ih =>
    rw [repeats_concat, List.append_eq_nil_iff, ih, List.nodup_append]
    by_cases h : name ∈ taken ++ names
    · rw [if_pos h]
      rw [List.mem_append] at h
      grind
    · rw [if_neg h]
      rw [List.mem_append] at h
      grind

theorem firstRoot?_concat (roots : List (Operation × String)) (root : Operation × String)
    (operation : Operation) :
    firstRoot? (roots ++ [root]) operation =
      (firstRoot? roots operation).or (if root.1 = operation then some root.2 else none) := by
  unfold firstRoot?
  rw [List.find?_append, Option.map_or]
  by_cases h : root.1 = operation <;> simp [h]

theorem firstRoot?_isSome {roots : List (Operation × String)} {root : Operation × String}
    (h : root ∈ roots) : (firstRoot? roots root.1).isSome := by
  unfold firstRoot?
  rw [Option.isSome_map, List.find?_isSome]
  exact ⟨root, h, by simp⟩

theorem firstRoot?_concat_of_first {roots : List (Operation × String)} {operation : Operation}
    {first : String} (h : firstRoot? roots operation = some first) (name : String)
    (other : Operation) :
    firstRoot? (roots ++ [(operation, name)]) other = firstRoot? roots other := by
  rw [firstRoot?_concat]
  by_cases hsame : operation = other
  · rw [← hsame, h, Option.some_or]
  · rw [if_neg hsame, Option.or_none]

theorem rootConflict?_of_first {roots : List (Operation × String)} {operation : Operation}
    {first : String} (h : firstRoot? roots operation = some first) (name : String) :
    rootConflict? roots (operation, name) =
      if first = name then none else some (.duplicateRoot operation first name) := by
  unfold rootConflict?
  rw [h]
  by_cases hsame : first = name <;> simp [hsame]

theorem rootConflicts_concat (roots : List (Operation × String)) (root : Operation × String) :
    (roots ++ [root]).filterMap (rootConflict? (roots ++ [root])) =
      roots.filterMap (rootConflict? roots) ++ (rootConflict? roots root).toList := by
  rw [List.filterMap_append]
  congr 1
  · apply List.filterMap_congr
    intro other hother
    obtain ⟨first, hfirst⟩ := Option.isSome_iff_exists.1 (firstRoot?_isSome hother)
    unfold rootConflict?
    rw [firstRoot?_concat, hfirst, Option.some_or]
  · have hlast : rootConflict? (roots ++ [root]) root = rootConflict? roots root := by
      unfold rootConflict?
      rw [firstRoot?_concat, if_pos rfl]
      cases firstRoot? roots root.1 with
      | none => simp
      | some first => rfl
    rw [List.filterMap_cons, List.filterMap_nil, hlast]
    cases rootConflict? roots root <;> rfl

end Lowering

/-! ## Drafts -/

theorem Roots.get?_set (roots : Roots) (operation other : Operation) (name : String) :
    (roots.set operation name).get? other =
      if operation = other then some name else roots.get? other := by
  cases operation <;> cases other <;> rfl

namespace Lowering

/-- What a draft holds after roots and types were declared. -/
structure Draft.Follows (draft : Draft) (declared : List (Operation × String))
    (all : List TypeDef) : Prop where
  roots : ∀ operation, draft.roots.get? operation = firstRoot? declared operation
  taken : ∀ name, name ∈ builtinScalars ++ draft.types.map (·.name) ↔
    name ∈ builtinScalars ++ all.map (·.name)
  types : repeats builtinScalars (all.map (·.name)) = [] → draft.types = all
  errors : draft.errors.Perm (declared.filterMap (rootConflict? declared) ++
    (repeats builtinScalars (all.map (·.name))).map fun name => .schema (.duplicateType name))

namespace Draft.Follows

variable {draft : Draft} {declared : List (Operation × String)} {all : List TypeDef}

theorem empty : Draft.Follows {} [] [] where
  roots operation := by cases operation <;> rfl
  taken _ := Iff.rfl
  types _ := rfl
  errors := List.Perm.refl _

theorem addRoot (h : draft.Follows declared all) (root : Operation × String) :
    (draft.addRoot root).Follows (declared ++ [(root.1, Name.typeName root.2)]) all := by
  obtain ⟨operation, identifier⟩ := root
  have hroots := h.roots operation
  unfold Draft.addRoot
  dsimp only
  generalize hname : Name.typeName identifier = name
  cases hfirst : draft.roots.get? operation with
  | none =>
    rw [hfirst] at hroots
    refine ⟨fun other => ?_, h.taken, h.types, ?_⟩
    · rw [Roots.get?_set, firstRoot?_concat, ← h.roots other]
      by_cases hother : operation = other
      · subst hother
        rw [if_pos rfl, if_pos rfl, hfirst, Option.none_or]
      · rw [if_neg hother, if_neg hother, Option.or_none]
    · have hnone : rootConflict? declared (operation, name) = none := by
        unfold rootConflict?
        rw [← hroots]
        rfl
      rw [rootConflicts_concat, hnone, Option.toList_none, List.append_nil]
      exact h.errors
  | some first =>
    -- The first root stays, so only the errors may grow.
    rw [hfirst] at hroots
    have hkept := firstRoot?_concat_of_first hroots.symm name
    have hconflict := rootConflict?_of_first hroots.symm name
    dsimp only at hconflict ⊢
    by_cases hsame : first = name
    · rw [if_pos hsame] at hconflict ⊢
      refine ⟨fun other => (h.roots other).trans (hkept other).symm, h.taken, h.types, ?_⟩
      rw [rootConflicts_concat, hconflict, Option.toList_none, List.append_nil]
      exact h.errors
    · rw [if_neg hsame] at hconflict ⊢
      refine ⟨fun other => (h.roots other).trans (hkept other).symm, h.taken, h.types, ?_⟩
      rw [rootConflicts_concat, hconflict, Option.toList_some, List.append_assoc]
      refine (h.errors.append_right _).trans ?_
      rw [List.append_assoc]
      exact List.perm_append_comm.append_left _

theorem addType (h : draft.Follows declared all) (type : TypeDef) :
    (draft.addType type).Follows declared (all ++ [type]) := by
  have hnames : (all ++ [type]).map (·.name) = all.map (·.name) ++ [type.name] := by
    rw [List.map_append, List.map_singleton]
  have hrepeats := repeats_concat builtinScalars (all.map (·.name)) type.name
  have htaken := h.taken type.name
  rw [List.mem_append] at htaken
  unfold Draft.addType
  by_cases hmem : type.name ∈ builtinScalars ++ all.map (·.name)
  · rw [if_pos hmem] at hrepeats
    rw [if_pos (htaken.2 hmem)]
    refine ⟨h.roots, fun name => ?_, fun hnone => ?_, ?_⟩
    · have := h.taken name
      rw [hnames]
      grind
    · rw [hnames, hrepeats] at hnone
      simp at hnone
    · rw [hnames, hrepeats, List.map_append, ← List.append_assoc]
      exact h.errors.append_right _
  · rw [if_neg hmem, List.append_nil] at hrepeats
    rw [if_neg (mt htaken.1 hmem)]
    refine ⟨h.roots, fun name => ?_, fun hnone => ?_, ?_⟩
    · have := h.taken name
      rw [hnames, List.map_append]
      grind
    · rw [hnames, hrepeats] at hnone
      rw [h.types hnone]
    · rw [hnames, hrepeats]
      exact h.errors

theorem addRoots (h : draft.Follows declared all) (roots : List (Operation × String)) :
    (roots.foldl Draft.addRoot draft).Follows
      (declared ++ roots.map fun root => (root.1, Name.typeName root.2)) all := by
  induction roots generalizing draft declared with
  | nil => rwa [List.map_nil, List.append_nil]
  | cons root roots ih =>
    rw [List.map_cons, List.append_cons]
    exact ih (h.addRoot root)

theorem addTypes (h : draft.Follows declared all) (types : List TypeDef) :
    (types.foldl Draft.addType draft).Follows declared (all ++ types) := by
  induction types generalizing draft all with
  | nil => rwa [List.append_nil]
  | cons type types ih =>
    rw [List.append_cons]
    exact ih (h.addType type)

theorem addModules (h : draft.Follows declared all) (modules : List SchemaModule) :
    (modules.foldl Draft.addModule draft).Follows (declared ++ declaredRoots modules)
      (all ++ modules.flatMap typesOf) := by
  induction modules generalizing draft declared all with
  | nil => rwa [declaredRoots, List.flatMap_nil, List.flatMap_nil, List.append_nil, List.append_nil]
  | cons m modules ih =>
    rw [declaredRoots, List.flatMap_cons, List.flatMap_cons, ← List.append_assoc,
      ← List.append_assoc]
    exact ih ((h.addRoots m.roots.declared).addTypes (typesOf m))

end Draft.Follows

/-! ## Types of declarations -/

/-- Kind, name and module: what a declaration fixes of its type. -/
def outline (type : TypeDef) : TypeKind × String × Option String :=
  (type.kind, type.name, type.moduleName)

end Lowering

def Declaration.outline (d : Declaration) : TypeKind × String × Option String :=
  (d.kind.typeKind, d.typeName, some d.moduleName)

namespace Lowering

theorem outline_typesOf (m : SchemaModule) :
    (typesOf m).map outline = m.declarations.map fun (kind, identifier) =>
      Declaration.outline ⟨m.name, kind, identifier⟩ := by
  simp only [typesOf, SchemaModule.declarations, OrderedMap.keys, List.map_append, List.map_map]
  rfl

theorem outline_flatMap_typesOf (modules : List SchemaModule) :
    (modules.flatMap typesOf).map outline = (declarations modules).map Declaration.outline := by
  unfold declarations
  rw [List.map_flatMap, List.map_flatMap]
  congr 1
  funext m
  rw [outline_typesOf, List.map_map]
  rfl

theorem names_flatMap_typesOf (modules : List SchemaModule) :
    (modules.flatMap typesOf).map (·.name) = (declarations modules).map Declaration.typeName := by
  have h := congrArg (List.map fun o : TypeKind × String × Option String => o.2.1)
    (outline_flatMap_typesOf modules)
  rw [List.map_map, List.map_map] at h
  exact h

theorem addType_eq_ok {schema : Schema} {type : TypeDef} (h : type.name ∉ schema.types.keys) :
    ∃ table, schema.addType type = .ok { schema with types := table } ∧
      table.entries = schema.types.entries ++ [(type.name, type)] := by
  exact ⟨schema.types.insert type.name type, Schema.addType_eq_ok_iff.2 ⟨h, rfl⟩,
    OrderedMap.entries_insert_of_not_mem h type⟩

theorem foldlM_addType {types : List TypeDef} {schema : Schema}
    (hnodup : (types.map (·.name)).Nodup)
    (hfresh : ∀ type ∈ types, type.name ∉ schema.types.keys) :
    ∃ table, types.foldlM Schema.addType schema = .ok { schema with types := table } ∧
      table.entries = schema.types.entries ++ types.map fun type => (type.name, type) := by
  induction types generalizing schema with
  | nil => exact ⟨schema.types, rfl, by rw [List.map_nil, List.append_nil]⟩
  | cons type types ih =>
    obtain ⟨hnew, hrest⟩ := List.nodup_cons.1 hnodup
    obtain ⟨next, hadd, hnext⟩ := addType_eq_ok (hfresh type List.mem_cons_self)
    have hkeys : next.keys = schema.types.keys ++ [type.name] := by
      unfold OrderedMap.keys
      rw [hnext, List.map_append, List.map_singleton]
    have hfresh' : ∀ other ∈ types, other.name ∉ next.keys := by
      intro other hother
      rw [hkeys, List.mem_append, List.mem_singleton]
      rintro (hold | hsame)
      · exact hfresh other (List.mem_cons_of_mem _ hother) hold
      · exact hnew (List.mem_map.2 ⟨other, hother, hsame⟩)
    obtain ⟨table, hfold, htable⟩ := @ih { schema with types := next } hrest hfresh'
    refine ⟨table, ?_, ?_⟩
    · rw [List.foldlM_cons, hadd]
      exact hfold
    · rw [htable, hnext, List.map_cons, List.append_assoc, List.singleton_append]

/-- The query root that an object of the name `Query` is by default. -/
def defaultRoot? (modules : List SchemaModule) : Operation → Option String
  | .query =>
    if (declarations modules).any fun d => d.kind == .object && d.typeName == "Query" then
      some "Query"
    else
      none
  | _ => none

theorem any_query_object (modules : List SchemaModule) :
    ((modules.flatMap typesOf).any fun type => type.kind == .object && type.name == "Query") =
      (declarations modules).any fun d => d.kind == .object && d.typeName == "Query" := by
  have h := congrArg
    (List.any · fun o : TypeKind × String × Option String => o.1 == .object && o.2.1 == "Query")
    (outline_flatMap_typesOf modules)
  rw [List.any_map, List.any_map] at h
  refine h.trans (congrArg _ (funext fun d => ?_))
  have hkind : (d.kind.typeKind == .object) = (d.kind == .object) := by
    cases d.kind <;> rfl
  change (d.kind.typeKind == .object && d.typeName == "Query") = _
  rw [hkind]

theorem get?_rootsOf {draft : Draft} {modules : List SchemaModule}
    (hroots : ∀ operation, draft.roots.get? operation =
      firstRoot? (declaredRoots modules) operation)
    (htypes : draft.types = modules.flatMap typesOf) (operation : Operation) :
    (rootsOf draft).get? operation =
      (firstRoot? (declaredRoots modules) operation).or (defaultRoot? modules operation) := by
  have hquery := any_query_object modules
  rw [← htypes] at hquery
  rw [← hroots]
  unfold rootsOf
  rw [hquery]
  cases operation with
  | mutation => split <;> exact Option.or_none.symm
  | subscription => split <;> exact Option.or_none.symm
  | query =>
    change _ = draft.roots.query.or (defaultRoot? modules .query)
    unfold defaultRoot?
    cases hroot : draft.roots.query with
    | some name => exact hroot
    | none =>
      rw [Option.none_or, Option.isNone_none, Bool.true_and]
      split
      · rfl
      · exact hroot

/-! ## Lowering -/

theorem rootConflicts_ne_nil_iff {roots : List (Operation × String)} :
    roots.filterMap (rootConflict? roots) ≠ [] ↔
      ∃ root ∈ roots, ∃ first, firstRoot? roots root.1 = some first ∧ first ≠ root.2 := by
  rw [Ne, List.filterMap_eq_nil_iff]
  push Not
  refine exists_congr fun root => and_congr_right fun _ => ?_
  unfold rootConflict?
  cases firstRoot? roots root.1 with
  | none => simp
  | some first => by_cases h : first = root.2 <;> simp [h]

theorem repeats_typeNames_ne_nil_iff {taken : List String} {all : List Declaration} :
    repeats taken (all.map Declaration.typeName) ≠ [] ↔
      ∃ (i : Nat) (d : Declaration), all[i]? = some d ∧
        (d.typeName ∈ taken ∨ ∃ (j : Nat) (earlier : Declaration), j < i ∧
          all[j]? = some earlier ∧ earlier.typeName = d.typeName) := by
  constructor
  · intro h
    obtain ⟨name, hname⟩ := List.exists_mem_of_ne_nil _ h
    rw [mem_repeats_iff] at hname
    simp only [List.getElem?_map, Option.map_eq_some_iff] at hname
    obtain ⟨i, ⟨d, hd, rfl⟩, hrepeat⟩ := hname
    refine ⟨i, d, hd, hrepeat.imp_right ?_⟩
    rintro ⟨j, hlt, earlier, hget, hsame⟩
    exact ⟨j, earlier, hlt, hget, hsame⟩
  · rintro ⟨i, d, hd, hrepeat⟩
    have hmem : d.typeName ∈ repeats taken (all.map Declaration.typeName) := by
      rw [mem_repeats_iff]
      simp only [List.getElem?_map, Option.map_eq_some_iff]
      refine ⟨i, ⟨d, hd, rfl⟩, hrepeat.imp_right ?_⟩
      rintro ⟨j, earlier, hlt, hget, hsame⟩
      exact ⟨j, hlt, earlier, hget, hsame⟩
    exact List.ne_nil_of_mem hmem

theorem conflicts_eq_nil_iff {modules : List SchemaModule} :
    conflicts modules = [] ↔
      (declaredRoots modules).filterMap (rootConflict? (declaredRoots modules)) = [] ∧
        repeats builtinScalars ((declarations modules).map Declaration.typeName) = [] := by
  unfold conflicts
  rw [List.append_eq_nil_iff, List.map_eq_nil_iff]

theorem draft_follows (modules : List SchemaModule) :
    (modules.foldl Draft.addModule {}).Follows (declaredRoots modules)
      (modules.flatMap typesOf) :=
  Draft.Follows.empty.addModules modules

theorem draft_errors (modules : List SchemaModule) :
    (modules.foldl Draft.addModule {}).errors.Perm (conflicts modules) := by
  have h := (draft_follows modules).errors
  rwa [names_flatMap_typesOf] at h

theorem run_of_conflicts {modules : List SchemaModule} (h : conflicts modules ≠ []) :
    ∃ errors, run modules = .error errors ∧ errors.Perm (conflicts modules) := by
  have hperm := draft_errors modules
  have hne : (modules.foldl Draft.addModule {}).errors ≠ [] := by
    intro hnil
    rw [hnil] at hperm
    exact h hperm.symm.eq_nil
  refine ⟨_, ?_, hperm⟩
  unfold run
  dsimp only
  rw [Checked.unless_of_ne_nil hne]
  rfl

theorem initial_keys : Schema.initial.types.keys = builtinScalars := by
  cbv

/-- One type for each declaration in order, behind the built-in scalars, and the first roots. -/
structure Keeps (modules : List SchemaModule) (schema : Schema) : Prop where
  types : schema.types.entries = Schema.initial.types.entries ++
    (modules.flatMap typesOf).map fun type => (type.name, type)
  declared : (modules.flatMap typesOf).map outline =
    (declarations modules).map Declaration.outline
  roots : ∀ operation, schema.roots.get? operation =
    (firstRoot? (declaredRoots modules) operation).or (defaultRoot? modules operation)

theorem run_of_no_conflicts {modules : List SchemaModule} (h : conflicts modules = []) :
    ∃ schema, run modules = .ok schema ∧ Keeps modules schema := by
  have hfollows := draft_follows modules
  have hperm := draft_errors modules
  rw [h] at hperm
  have hrepeats := (conflicts_eq_nil_iff.1 h).2
  rw [← names_flatMap_typesOf] at hrepeats
  have htypes := hfollows.types hrepeats
  obtain ⟨hnodup, hbuiltin⟩ := repeats_eq_nil_iff.1 hrepeats
  have hfresh : ∀ type ∈ modules.flatMap typesOf, type.name ∉ Schema.initial.types.keys := by
    intro type htype
    rw [initial_keys]
    exact hbuiltin type.name (List.mem_map_of_mem htype)
  obtain ⟨table, hfold, htable⟩ := @foldlM_addType _
    { Schema.initial with roots := rootsOf (modules.foldl Draft.addModule {}) } hnodup hfresh
  refine ⟨{ Schema.initial with
    roots := rootsOf (modules.foldl Draft.addModule {}), types := table }, ?_, ?_⟩
  · unfold run
    dsimp only
    rw [hperm.eq_nil, htypes]
    change Except.mapError _ (List.foldlM _ _ _) = _
    rw [hfold]
    rfl
  · exact ⟨htable, outline_flatMap_typesOf modules, get?_rootsOf hfollows.roots htypes⟩

theorem keeps_of_run {modules : List SchemaModule} {schema : Schema}
    (h : run modules = .ok schema) : Keeps modules schema := by
  by_cases hconflicts : conflicts modules = []
  · obtain ⟨kept, hrun, hkeeps⟩ := run_of_no_conflicts hconflicts
    obtain rfl := Except.ok.inj (hrun.symm.trans h)
    exact hkeeps
  · obtain ⟨errors, hrun, -⟩ := run_of_conflicts hconflicts
    cases hrun.symm.trans h

/-- Lowering keeps every declaration once, and reports every conflict once. It fails if some type
name is a built-in scalar's or an earlier declaration's, or some root differs from the first one of
its operation. -/
theorem run_keeps_declarations (modules : List SchemaModule) :
    ((∃ errors, run modules = .error errors) ↔
      (∃ (i : Nat) (d : Declaration), (declarations modules)[i]? = some d ∧
        (d.typeName ∈ builtinScalars ∨ ∃ (j : Nat) (earlier : Declaration), j < i ∧
          (declarations modules)[j]? = some earlier ∧ earlier.typeName = d.typeName)) ∨
      ∃ root ∈ declaredRoots modules, ∃ first,
        firstRoot? (declaredRoots modules) root.1 = some first ∧ first ≠ root.2) ∧
    (∀ errors, run modules = .error errors → errors.Perm (conflicts modules)) ∧
    ∀ schema, run modules = .ok schema → Keeps modules schema := by
  rw [← repeats_typeNames_ne_nil_iff, ← rootConflicts_ne_nil_iff, or_comm, Ne, Ne, ← not_and_or,
    ← conflicts_eq_nil_iff]
  refine ⟨?_, ?_, fun schema => keeps_of_run⟩
  · constructor
    · rintro ⟨errors, hfail⟩ hnone
      obtain ⟨schema, hrun, -⟩ := run_of_no_conflicts hnone
      cases hrun.symm.trans hfail
    · intro hconflicts
      obtain ⟨errors, hrun, -⟩ := run_of_conflicts hconflicts
      exact ⟨errors, hrun⟩
  · intro errors hfail
    by_cases hnone : conflicts modules = []
    · obtain ⟨schema, hrun, -⟩ := run_of_no_conflicts hnone
      cases hrun.symm.trans hfail
    · obtain ⟨reported, hrun, hperm⟩ := run_of_conflicts hnone
      obtain rfl := Except.error.inj (hrun.symm.trans hfail)
      exact hperm

/-! ### Types and fields under their own names -/

theorem keyed_fieldsOf {α : Type} {lower : String → α → Field}
    (hlower : ∀ name decl, (lower name decl).name = name) (parent : String)
    (fields : OrderedMap String α) : (fieldsOf parent lower fields).KeyedBy Field.name := by
  intro entry hentry
  obtain ⟨before, -, rfl⟩ := List.mem_map.1 hentry
  exact hlower before.1 before.2

theorem keyed_typesOf (m : SchemaModule) :
    ∀ type ∈ typesOf m, ∀ fields ∈ type.fields?, fields.KeyedBy Field.name := by
  unfold typesOf
  simp only [List.forall_mem_append, List.forall_mem_map]
  refine ⟨⟨⟨⟨⟨?_, ?_⟩, ?_⟩, ?_⟩, ?_⟩, ?_⟩
  · rintro entry - _ ⟨⟩
    exact keyed_fieldsOf (fun _ _ => rfl) _ _
  · rintro entry - _ ⟨⟩
    exact keyed_fieldsOf (fun _ _ => rfl) _ _
  · nofun
  · nofun
  · rintro entry - _ ⟨⟩
    exact keyed_fieldsOf (fun _ _ => rfl) _ _
  · nofun

theorem typeList_of_keeps {modules : List SchemaModule} {schema : Schema}
    (h : Keeps modules schema) :
    schema.typeList = builtinScalars.map TypeDef.builtinScalar ++ modules.flatMap typesOf := by
  have hinitial : Schema.initial.typeList = builtinScalars.map TypeDef.builtinScalar := by cbv
  unfold Schema.typeList OrderedMap.values at hinitial ⊢
  rw [h.types, List.map_append, List.map_map, hinitial]
  congr 1
  exact List.map_id _

theorem keyed_of_run {modules : List SchemaModule} {schema : Schema}
    (h : run modules = .ok schema) : schema.Keyed := by
  have hkeeps := keeps_of_run h
  constructor
  · have hinitial : Schema.initial.types.KeyedBy TypeDef.name := by decide
    unfold OrderedMap.KeyedBy
    rw [hkeeps.types, List.forall_mem_append, List.forall_mem_map]
    exact ⟨hinitial, fun _ _ => rfl⟩
  · rw [typeList_of_keeps hkeeps, List.forall_mem_append, List.forall_mem_map,
      List.forall_mem_flatMap]
    exact ⟨nofun, fun m _ => keyed_typesOf m⟩

def archive : SchemaModule where
  name := "archive"
  roots := { mutation := some "edits" }
  objects := .ofList [("query", {}), ("edits", {}), ("page_info", {})]

/-- Its objects are named as a type of the archive and as a built-in scalar. -/
def annex : SchemaModule where
  name := "annex"
  roots := { mutation := some "page_info" }
  objects := .ofList [("pageInfo", {}), ("string", {})]

theorem run_keeps_declarations_archive :
    (∃ errors, run [archive, annex] = .error errors ∧ errors.Perm
      [.duplicateRoot .mutation "Edits" "PageInfo", .schema (.duplicateType "PageInfo"),
        .schema (.duplicateType "String")]) ∧
    ∃ schema, run [archive] = .ok schema ∧
      schema.types.keys = ["ID", "String", "Int", "Float", "Boolean", "Query", "Edits", "PageInfo"] ∧
      schema.roots.get? .query = some "Query" ∧ schema.roots.get? .mutation = some "Edits" := by
  constructor
  · have hroots : declaredRoots [archive, annex] =
        [(.mutation, "Edits"), (.mutation, "PageInfo")] := by cbv
    have hnames : (declarations [archive, annex]).map Declaration.typeName =
        ["Query", "Edits", "PageInfo", "PageInfo", "String"] := by cbv
    have hconflicts : conflicts [archive, annex] = [.duplicateRoot .mutation "Edits" "PageInfo",
        .schema (.duplicateType "PageInfo"), .schema (.duplicateType "String")] := by
      unfold conflicts
      rw [hroots, hnames]
      cbv
    obtain ⟨hfails, hreports, -⟩ := run_keeps_declarations [archive, annex]
    obtain ⟨errors, hrun⟩ := hfails.2 (.inr ⟨(.mutation, "PageInfo"), by rw [hroots]; simp,
      "Edits", by rw [hroots]; rfl, by decide⟩)
    have hperm := hreports errors hrun
    rw [hconflicts] at hperm
    exact ⟨errors, hrun, hperm⟩
  · have hok : (run [archive]).isOk := by cbv
    obtain ⟨schema, hrun⟩ := isOk_iff.1 hok
    have hkeeps := (run_keeps_declarations [archive]).2.2 schema hrun
    refine ⟨schema, hrun, ?_, ?_, ?_⟩
    · unfold OrderedMap.keys
      rw [hkeeps.types]
      cbv
    · rw [hkeeps.roots]
      cbv
    · rw [hkeeps.roots]
      cbv

end Lowering

end GraphSchema
