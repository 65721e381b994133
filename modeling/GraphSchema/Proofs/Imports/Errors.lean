import GraphSchema.Proofs.Imports.Origins
import GraphSchema.Proofs.Imports.Resolvable

/-!
# Reported import errors

A run that fails reports what is wrong with the schema as it was given, although types change while
it walks and chains that failed count as finished. Two reported cycles have no type in common.
-/

namespace GraphSchema.Imports

/-! ## What is reported -/

/-- The path follows imports from a type back to the same type and meets no type twice on the
way. -/
structure IsCycle (schema : Schema) (path : List String) : Prop where
  closed : ∃ first middle, path = first :: (middle ++ [first]) ∧ (first :: middle).Nodup
  edges : path.IsChain (ImportsFrom schema)

/-- The error names an import of the schema, and says what is wrong with it. -/
inductive Reported (schema : Schema) : CompileError → Prop where
  | cycle {path : List String} (cycle : IsCycle schema path) : Reported schema (.importCycle path)
  | unknown {importer : String} {type : TypeDef} {request : FieldImport}
      (found : schema.find? importer = some type) (requested : request ∈ type.imports)
      (missing : ∀ source, schema.find? request.source = some source →
        ∃ moduleName ∈ request.moduleName, source.moduleName ≠ some moduleName) :
    Reported schema (.unknownType request.source (.fieldImport importer request.moduleName))
  | noFields {importer source : String} {type : TypeDef}
      (imports : ImportsFrom schema importer source) (found : schema.find? source = some type)
      (kind : type.kind = .union ∨ type.kind = .enum ∨ type.kind = .scalar) :
    Reported schema (.schema (.notAFieldContainer source type.kind))

/-- The errors are no cycles that share a type. -/
def Apart (error other : CompileError) : Prop :=
  ∀ path path', error = .importCycle path → other = .importCycle path' → path.Disjoint path'

/-! ## Chains of imports -/

/-- The types that the walk is inside of, innermost first, each imported by the next. -/
structure Trail (schema : Schema) (chain : List String) : Prop where
  nodup : chain.Nodup
  edges : chain.IsChain fun source importer => ImportsFrom schema importer source

theorem cyclePath_eq {front back : List String} {name : String} (h : name ∉ front) :
    cyclePath (front ++ name :: back) name = name :: (front.reverse ++ [name]) := by
  have hfront : ∀ other ∈ front, (other != name) = true := by
    intro other hother
    simpa using ne_of_mem_of_not_mem hother h
  rw [cyclePath, List.takeWhile_append_of_pos hfront, List.takeWhile_cons_of_neg (by simp)]
  simp

/-- Coming back to a type of the chain closes a cycle of types of the chain. -/
theorem Trail.isCycle {schema : Schema} {chain : List String} {name : String}
    (h : Trail schema chain) (hmem : name ∈ chain)
    (hedges : (name :: chain).IsChain fun source importer => ImportsFrom schema importer source) :
    IsCycle schema (cyclePath chain name) ∧ cyclePath chain name ⊆ chain := by
  obtain ⟨front, back, rfl, hfront⟩ := List.eq_append_cons_of_mem hmem
  rw [cyclePath_eq hfront]
  refine ⟨⟨⟨name, front.reverse, rfl, ?_⟩, ?_⟩, ?_⟩
  · have hnodup : front.Nodup := h.nodup.sublist (List.sublist_append_left front _)
    simpa [hfront] using hnodup
  · rw [List.append_cons, ← List.cons_append] at hedges
    simpa using List.isChain_reverse.2 hedges.left_of_append
  · intro other hother
    simp at hother ⊢
    tauto

/-! ## Parts of a walk -/

/-- The types are of the kinds they have in the schema. -/
def SameKinds (schema : Schema) (types : OrderedMap String TypeDef) : Prop :=
  ∀ name, (types.get? name).map TypeDef.kind = (schema.find? name).map TypeDef.kind

theorem SameKinds.settle {schema : Schema} {types : OrderedMap String TypeDef}
    (h : SameKinds schema types) (name : String) (borrowed : List Field) :
    SameKinds schema (types.modify name (settle name borrowed)) := by
  intro other
  by_cases heq : other = name
  · subst heq
    rw [OrderedMap.get?_modify_self, Option.map_map, ← h other]
    congr 1
    funext type
    exact kind_settle other borrowed type
  · rw [OrderedMap.get?_modify_of_ne _ heq, h other]

/-- What is kept along a walk, also behind chains that failed. -/
structure Continues (schema : Schema) (progress later : Progress) : Prop where
  finished : progress.finished ⊆ later.finished
  kinds : SameKinds schema progress.types → SameKinds schema later.types

theorem Continues.refl (schema : Schema) (progress : Progress) :
    Continues schema progress progress :=
  ⟨List.Subset.refl _, id⟩

theorem Continues.trans {schema : Schema} {first second third : Progress}
    (h : Continues schema first second) (h' : Continues schema second third) :
    Continues schema first third :=
  ⟨List.Subset.trans h.finished h'.finished, h'.kinds ∘ h.kinds⟩

theorem resolve_continues {schema : Schema} {chain : List String} {name : String}
    {progress later : Progress} (h : resolve schema chain name progress = .ok later) :
    Continues schema progress later := by
  refine resolve_induction (fun _ _ progress later => Continues schema progress later)
    (fun _ _ progress _ later _ => Continues schema progress later) ?_ ?_ ?_ ?_ ?_ h
  · intro chain name progress _
    exact .refl schema progress
  · intro chain name progress _ _ _
    exact ⟨List.subset_cons_self _ _, id⟩
  · intro chain name progress type later borrowed _ _ _ h
    exact h.trans ⟨List.subset_cons_self _ _, fun hkinds => hkinds.settle name borrowed⟩
  · intro chain progress borrowed
    exact .refl schema progress
  · intro chain request rest source progress between later fields borrowed all _ hentry _ hround
    exact hentry.trans hround

/-- What holds of a part of a walk that failed: the types of the chain were not finished when the
part began, but for those it was entered along, and a reported cycle lies on the chain. -/
structure Failure.Sound (schema : Schema) (chain : List String) (progress : Progress)
    (failure : Failure) : Prop where
  continues : Continues schema progress failure.progress
  fresh : ∀ name ∈ failure.chain, name ∈ chain ∨ name ∉ progress.finished
  reported : Reported schema failure.error
  path : ∀ path, failure.error = .importCycle path → path ⊆ failure.chain

/-- A failure of a later part is one of the whole. -/
theorem Failure.Sound.after {schema : Schema} {chain : List String} {progress between : Progress}
    {failure : Failure} (h : failure.Sound schema chain between)
    (hbefore : Continues schema progress between) : failure.Sound schema chain progress := by
  refine ⟨hbefore.trans h.continues, ?_, h.reported, h.path⟩
  intro name hname
  exact (h.fresh name hname).imp_right fun hnew hmem => hnew (hbefore.finished hmem)

/-- Borrowing fails on the types that have no fields, whatever the walk has done to them. -/
theorem borrow_eq_error {schema : Schema} {progress : Progress} {source : String} {type : TypeDef}
    {request : FieldImport} {error : CompileError} (hkinds : SameKinds schema progress.types)
    (hfound : schema.find? source = some type)
    (h : borrow progress source request = .error error) :
    error = .schema (.notAFieldContainer source type.kind) ∧
      (type.kind = .union ∨ type.kind = .enum ∨ type.kind = .scalar) := by
  have hsame := hkinds source
  unfold borrow at h
  split at h
  · rename_i hnone
    simp [hnone, hfound] at hsame
  · rename_i now hnow
    rw [hnow, hfound, Option.map_some, Option.map_some, Option.some.injEq] at hsame
    split at h
    · rename_i hfields
      have hnone : ¬now.body.fields?.isSome := by simpa [TypeDef.fields?] using hfields
      rw [TypeBody.fields?_isSome_iff] at hnone
      cases h
      rw [← hsame]
      refine ⟨rfl, ?_⟩
      unfold TypeDef.kind
      cases hkind : now.body.kind <;> simp [hkind] at hnone ⊢
    · cases h

section Keyed

variable {schema : Schema} (hkeyed : schema.types.KeyedBy TypeDef.name)
include hkeyed

theorem resolve_sound {chain : List String} {name : String} {progress : Progress}
    {failure : Failure} (htrail : Trail schema chain)
    (hedges : (name :: chain).IsChain fun source importer => ImportsFrom schema importer source)
    (hkinds : SameKinds schema progress.types)
    (h : resolve schema chain name progress = .error failure) :
    failure.Sound schema chain progress := by
  have hboth := resolve.mutual_induct_unfolding schema
    (fun chain name progress outcome => Trail schema chain →
      (name :: chain).IsChain (fun source importer => ImportsFrom schema importer source) →
      SameKinds schema progress.types → ∀ failure, outcome = .error failure →
        failure.Sound schema chain progress)
    (fun chain importer requests progress _ outcome => Trail schema chain →
      (∃ back, chain = importer :: back) →
      (∃ type, schema.find? importer = some type ∧ requests ⊆ type.imports) →
      SameKinds schema progress.types → ∀ failure, outcome = .error failure →
        failure.Sound schema chain progress)
  refine (hboth ?_ ?_ ?_ ?_ ?_ ?_ ?_ ?_ ?_ ?_).1 chain name progress htrail hedges hkinds failure h
  · rintro chain name progress - - - - failure ⟨⟩
  · rintro chain name progress - hmem htrail hedges - failure ⟨⟩
    obtain ⟨hcycle, hsub⟩ := htrail.isCycle hmem hedges
    refine ⟨.refl schema progress, fun _ => .inl, .cycle hcycle, ?_⟩
    rintro path ⟨⟩
    exact hsub
  · rintro chain name progress - - - - - - failure ⟨⟩
  · rintro chain name progress hnew hchain type hfound failure hcollect ih htrail hedges hkinds
      _ ⟨⟩
    have htrail' : Trail schema (name :: chain) := ⟨htrail.nodup.cons hchain, hedges⟩
    have hsound := ih htrail' ⟨chain, rfl⟩ ⟨type, hfound, List.Subset.refl _⟩ hkinds failure hcollect
    refine ⟨hsound.continues, ?_, hsound.reported, hsound.path⟩
    intro other hother
    rcases hsound.fresh other hother with hother | hother
    · rcases List.mem_cons.1 hother with rfl | hother
      · exact .inr hnew
      · exact .inl hother
    · exact .inr hother
  · rintro chain name progress - - type - later borrowed - - - - - failure ⟨⟩
  · rintro chain importer progress borrowed - - - - failure ⟨⟩
  · rintro chain importer request rest progress borrowed hnone place - - ⟨type, hfound, hsub⟩ -
      failure ⟨⟩
    have hrequest : request ∈ type.imports := hsub List.mem_cons_self
    refine ⟨.refl schema progress, fun _ => .inl, .unknown hfound hrequest ?_, by rintro path ⟨⟩⟩
    intro source hsource
    by_contra hmatches
    push Not at hmatches
    have hsome := (source?_eq_some_iff hkeyed).2 ⟨rfl, source, hsource, hmatches⟩
    rw [hnone] at hsome
    cases hsome
  · rintro chain importer request rest progress borrowed source hsource failure hfailed ih htrail
      ⟨back, rfl⟩ ⟨type, hfound, hsub⟩ hkinds _ ⟨⟩
    obtain ⟨rfl, -⟩ := (source?_eq_some_iff hkeyed).1 hsource
    have himports : ImportsFrom schema importer request.source :=
      ⟨type, hfound, request, hsub List.mem_cons_self, rfl⟩
    exact ih htrail (.cons_cons himports htrail.edges) hkinds failure hfailed
  · rintro chain importer request rest progress borrowed source hsource between hresolve error
      hborrow - htrail - ⟨type, hfound, hsub⟩ hkinds failure ⟨⟩
    obtain ⟨rfl, lender, hlender, -⟩ := (source?_eq_some_iff hkeyed).1 hsource
    have hcontinues := resolve_continues hresolve
    obtain ⟨rfl, hkind⟩ := borrow_eq_error (hcontinues.kinds hkinds) hlender hborrow
    have himports : ImportsFrom schema importer request.source :=
      ⟨type, hfound, request, hsub List.mem_cons_self, rfl⟩
    exact ⟨hcontinues, fun _ => .inl, .noFields himports hlender hkind, by rintro path ⟨⟩⟩
  · rintro chain importer request rest progress borrowed source - between hresolve fields - - ih
      htrail hback ⟨type, hfound, hsub⟩ hkinds failure hfailed
    have hcontinues := resolve_continues hresolve
    have hrest : rest ⊆ type.imports :=
      List.Subset.trans (List.subset_cons_self request rest) hsub
    exact (ih htrail hback ⟨type, hfound, hrest⟩ (hcontinues.kinds hkinds) failure hfailed).after
      hcontinues

/-! ## The whole run -/

/-- What holds between two chains of a run: the cycles reported so far are finished. -/
structure Sound (schema : Schema) (state : Progress × List CompileError) : Prop where
  kinds : SameKinds schema state.1.types
  reported : ∀ error ∈ state.2, Reported schema error
  paths : ∀ path, .importCycle path ∈ state.2 → path ⊆ state.1.finished
  apart : state.2.Pairwise Apart

theorem Sound.start {state : Progress × List CompileError} (h : Sound schema state)
    (name : String) : Sound schema (start schema state name) := by
  unfold Imports.start
  split
  · rename_i later hlater
    have hcontinues := resolve_continues hlater
    exact ⟨hcontinues.kinds h.kinds, h.reported,
      fun path hpath => List.Subset.trans (h.paths path hpath) hcontinues.finished, h.apart⟩
  · rename_i error chain later hfailed
    have hsound := resolve_sound hkeyed ⟨List.nodup_nil, .nil⟩ (.singleton name) h.kinds hfailed
    have hfresh : ∀ other ∈ chain, other ∉ state.1.finished := by
      intro other hother
      exact (hsound.fresh other hother).resolve_left List.not_mem_nil
    refine ⟨hsound.continues.kinds h.kinds, ?_, ?_, ?_⟩
    · intro other hother
      rcases List.mem_append.1 hother with hother | hother
      · exact h.reported other hother
      · exact List.mem_singleton.1 hother ▸ hsound.reported
    · intro path hpath
      rcases List.mem_append.1 hpath with hpath | hpath
      · exact List.subset_append_of_subset_right _
          (List.Subset.trans (h.paths path hpath) hsound.continues.finished)
      · exact List.subset_append_of_subset_left _
          (hsound.path path (List.mem_singleton.1 hpath).symm)
    · rw [List.pairwise_append]
      refine ⟨h.apart, List.pairwise_singleton _ _, ?_⟩
      rintro other hother _ hlast path path' rfl rfl type hpath hpath'
      exact hfresh type (hsound.path path' (List.mem_singleton.1 hlast).symm hpath')
        (h.paths path hother hpath)

theorem Sound.foldl_start (names : List String) {state : Progress × List CompileError}
    (h : Sound schema state) : Sound schema (names.foldl (Imports.start schema) state) := by
  induction names generalizing state with
  | nil => exact h
  | cons name rest ih => exact ih (h.start hkeyed name)

end Keyed

/-- The errors of a run are about imports that the schema has: a cycle is one, an unknown type is
imported and missing, a type without fields is imported. No two cycles share a type. -/
theorem run_reports {schema : Schema} {errors : List CompileError}
    (hkeyed : schema.types.KeyedBy TypeDef.name) (h : run schema = .error errors) :
    (∀ error ∈ errors, Reported schema error) ∧ errors.Pairwise Apart := by
  have hstart : Sound schema (⟨schema.types, []⟩, []) :=
    ⟨fun _ => rfl, by simp, by simp, .nil⟩
  have hsound := hstart.foldl_start hkeyed (pending schema)
  obtain ⟨-, rfl⟩ := Checked.unless_eq_error_iff.1 h
  exact ⟨hsound.reported, hsound.apart⟩

/-- `Outer` leads into a ring of two types, `Mirror` imports from itself, `Lost` from a type that its
module does not have, and `Painted` from an enum. -/
def tangle : Schema :=
  let importing (name source : String) (moduleName : Option String) : TypeDef :=
    { name, body := .object [] .empty [{ source, moduleName }] }
  Schema.build {} [
    importing "Outer" "Left" none, importing "Left" "Right" none, importing "Right" "Left" none,
    importing "Lost" "Outer" (some "shop"), importing "Mirror" "Mirror" none,
    importing "Painted" "Color" none, { name := "Color", body := .enum .empty }]

theorem run_reports_tangle : ∃ errors, tangle.types.KeyedBy TypeDef.name ∧
    run tangle = .error errors ∧
    ((∀ error ∈ errors, Reported tangle error) ∧ errors.Pairwise Apart) ∧
    errors = [.importCycle ["Left", "Right", "Left"],
      .unknownType "Outer" (.fieldImport "Lost" (some "shop")), .importCycle ["Mirror", "Mirror"],
      .schema (.notAFieldContainer "Color" .enum)] := by
  have hkeyed : tangle.types.KeyedBy TypeDef.name := by decide
  have hrun : run tangle = .error [.importCycle ["Left", "Right", "Left"],
      .unknownType "Outer" (.fieldImport "Lost" (some "shop")), .importCycle ["Mirror", "Mirror"],
      .schema (.notAFieldContainer "Color" .enum)] := by cbv
  exact ⟨_, hkeyed, hrun, run_reports hkeyed hrun, rfl⟩

end GraphSchema.Imports
