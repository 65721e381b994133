import GraphSchema.Compile.Pipeline
import GraphSchema.Results

/-!
# Edits of pipelines

The phases of a pipeline have distinct names, whatever edits made it. So the name of an anchor or
target stands for one place, and an edit changes the pipeline at that place only.
-/

namespace GraphSchema.Pipeline

/-! ## Edits as data -/

inductive Side where
  | before
  | after
  deriving DecidableEq, Repr

inductive Edit where
  | append (phase : Phase)
  | insert (side : Side) (anchor : String) (phase : Phase)
  | replace (name : String) (phase : Phase)
  | remove (name : String)
  | withHydration (hydrators : List Hydration.Hydrator)
  | addPlugin (plugin : Plugin)

def Edit.apply (p : Pipeline) : Edit → Except CompileError Pipeline
  | append phase => p.append phase
  | insert .before anchor phase => p.insertBefore anchor phase
  | insert .after anchor phase => p.insertAfter anchor phase
  | replace name phase => p.replace name phase
  | remove name => p.remove name
  | withHydration hydrators => .ok (p.withHydration hydrators)
  | addPlugin plugin => .ok (p.addPlugin plugin)

/-- The pipelines that edits make of the built-in one and of the one without phases. -/
inductive Reachable : Pipeline → Prop where
  | builtIn : Reachable standard
  | empty : Reachable {}
  | edit {p q : Pipeline} {edit : Edit} (start : Reachable p) (made : edit.apply p = .ok q) :
    Reachable q

/-! ## What edits do

All phases that an edit does not name stay, in their order, and so do the plugins. -/

/-- The edit makes the second pipeline of the first. -/
inductive Yields (p : Pipeline) : Edit → Pipeline → Prop where
  | append {phase : Phase} (free : phase.name ∉ p.names) :
    Yields p (.append phase) { p with phases := p.phases ++ [phase] }
  | insertBefore {front back : List Phase} {anchor phase : Phase}
      (place : p.phases = front ++ anchor :: back) (free : phase.name ∉ p.names) :
    Yields p (.insert .before anchor.name phase)
      { p with phases := front ++ phase :: anchor :: back }
  | insertAfter {front back : List Phase} {anchor phase : Phase}
      (place : p.phases = front ++ anchor :: back) (free : phase.name ∉ p.names) :
    Yields p (.insert .after anchor.name phase)
      { p with phases := front ++ anchor :: phase :: back }
  | replace {front back : List Phase} {target phase : Phase}
      (place : p.phases = front ++ target :: back)
      (free : phase.name ∉ (front ++ back).map (·.name)) :
    Yields p (.replace target.name phase) { p with phases := front ++ phase :: back }
  | remove {front back : List Phase} {target : Phase}
      (place : p.phases = front ++ target :: back) :
    Yields p (.remove target.name) { p with phases := front ++ back }
  | rehydrate {front back : List Phase} {target : Phase}
      {hydrators : List Hydration.Hydrator} (place : p.phases = front ++ target :: back)
      (hydrates : target.name = "hydrate") :
    Yields p (.withHydration hydrators)
      { p with phases := front ++ Phase.hydrate hydrators :: back }
  | hydrate {hydrators : List Hydration.Hydrator} (free : "hydrate" ∉ p.names) :
    Yields p (.withHydration hydrators) { p with phases := p.phases ++ [Phase.hydrate hydrators] }
  | addPlugin {plugin : Plugin} :
    Yields p (.addPlugin plugin) { p with plugins := p.plugins ++ [plugin] }

/-- The edit fails with the error. A missing anchor or target is told before a taken name. -/
inductive Refuses (p : Pipeline) : Edit → CompileError → Prop where
  | append {phase : Phase} (taken : phase.name ∈ p.names) :
    Refuses p (.append phase) (.duplicatePhase phase.name)
  | noAnchor {side : Side} {anchor : String} {phase : Phase} (missing : anchor ∉ p.names) :
    Refuses p (.insert side anchor phase) (.anchorNotFound anchor phase.name)
  | insert {side : Side} {anchor : String} {phase : Phase} (found : anchor ∈ p.names)
      (taken : phase.name ∈ p.names) :
    Refuses p (.insert side anchor phase) (.duplicatePhase phase.name)
  | nothingToReplace {name : String} {phase : Phase} (missing : name ∉ p.names) :
    Refuses p (.replace name phase) (.phaseNotFound name)
  | replace {front back : List Phase} {target phase : Phase}
      (place : p.phases = front ++ target :: back)
      (taken : phase.name ∈ (front ++ back).map (·.name)) :
    Refuses p (.replace target.name phase) (.duplicatePhase phase.name)
  | nothingToRemove {name : String} (missing : name ∉ p.names) :
    Refuses p (.remove name) (.phaseNotFound name)

/-! ## Places -/

theorem contains_iff {p : Pipeline} {name : String} : p.contains name ↔ name ∈ p.names := by
  simp [contains]

theorem not_contains_iff {p : Pipeline} {name : String} :
    (!p.contains name) = true ↔ name ∉ p.names := by
  simp [contains]

theorem names_of_place {p : Pipeline} {front back : List Phase} {found : Phase}
    (place : p.phases = front ++ found :: back) :
    p.names = front.map (·.name) ++ found.name :: back.map (·.name) := by
  simp [names, place]

theorem exists_place {p : Pipeline} {name : String} (h : name ∈ p.names) :
    ∃ front found back, p.phases = front ++ found :: back ∧ found.name = name := by
  obtain ⟨found, hfound, hname⟩ := List.mem_map.1 h
  obtain ⟨front, back, place⟩ := List.append_of_mem hfound
  exact ⟨front, found, back, place, hname⟩

theorem mem_names_of_place {p : Pipeline} {front back : List Phase} {found : Phase}
    (place : p.phases = front ++ found :: back) : found.name ∈ p.names := by
  simp [names_of_place place]

theorem splice_append {name : String} {front : List Phase}
    (h : name ∉ front.map (·.name)) (around : Phase → List Phase) (rest : List Phase) :
    splice name around (front ++ rest) = front ++ splice name around rest := by
  induction front with
  | nil => rfl
  | cons phase front ih =>
    rw [List.map_cons, List.mem_cons, not_or] at h
    rw [List.cons_append, splice, if_neg (Ne.symm h.1), ih h.2, List.cons_append]

/-- Names are distinct, so a name that stands at a place stands nowhere before it. -/
theorem splice_place {p : Pipeline} (h : p.names.Nodup) {front back : List Phase} {found : Phase}
    (place : p.phases = front ++ found :: back) (around : Phase → List Phase) :
    splice found.name around p.phases = front ++ (around found ++ back) := by
  have hfront : found.name ∉ front.map (·.name) := by
    rw [names_of_place place, List.nodup_middle, List.nodup_cons, List.mem_append, not_or] at h
    exact h.1.1
  rw [place, splice_append hfront, splice, if_pos rfl]

/-- The names of the other phases are those that differ from the name at the place. -/
theorem mem_others_iff {p : Pipeline} (h : p.names.Nodup) {front back : List Phase}
    {found : Phase} (place : p.phases = front ++ found :: back) (name : String) :
    name ∈ (front ++ back).map (·.name) ↔ name ≠ found.name ∧ name ∈ p.names := by
  rw [names_of_place place, List.nodup_middle, List.nodup_cons, ← List.map_append] at h
  rw [names_of_place place, List.mem_append, List.mem_cons, List.map_append, List.mem_append]
  constructor
  · intro hname
    refine ⟨?_, by tauto⟩
    rintro rfl
    rw [List.map_append, List.mem_append] at h
    exact h.1 hname
  · tauto

/-! ## The edits follow the rules -/

section Nodup

variable {p : Pipeline} (h : p.names.Nodup)
include h

theorem insertAt_place {front back : List Phase} {anchor phase : Phase}
    (place : p.phases = front ++ anchor :: back) (free : phase.name ∉ p.names)
    (around : Phase → List Phase) :
    p.insertAt anchor.name phase around =
      .ok { p with phases := front ++ (around anchor ++ back) } := by
  have hanchor : p.contains anchor.name := contains_iff.2 (mem_names_of_place place)
  have hfree : ¬p.contains phase.name := mt contains_iff.1 free
  unfold insertAt
  rw [if_neg (by simp [hanchor]), if_neg hfree, splice_place h place]

theorem replace_place {front back : List Phase} {target phase : Phase}
    (place : p.phases = front ++ target :: back)
    (free : phase.name ∉ (front ++ back).map (·.name)) :
    p.replace target.name phase = .ok { p with phases := front ++ phase :: back } := by
  have htarget : p.contains target.name := contains_iff.2 (mem_names_of_place place)
  have hfree : ¬(phase.name ≠ target.name ∧ p.contains phase.name) := by
    rwa [contains_iff, ← mem_others_iff h place]
  unfold replace
  rw [if_neg (by simp [htarget]), if_neg hfree, splice_place h place]
  rfl

theorem remove_place {front back : List Phase} {target : Phase}
    (place : p.phases = front ++ target :: back) :
    p.remove target.name = .ok { p with phases := front ++ back } := by
  have htarget : p.contains target.name := contains_iff.2 (mem_names_of_place place)
  unfold remove
  rw [if_neg (by simp [htarget]), splice_place h place]
  rfl

theorem withHydration_place {front back : List Phase} {target : Phase}
    (place : p.phases = front ++ target :: back) (hydrates : target.name = "hydrate")
    (hydrators : List Hydration.Hydrator) :
    p.withHydration hydrators = { p with phases := front ++ Phase.hydrate hydrators :: back } := by
  have hname : (Phase.hydrate hydrators).name = target.name := hydrates.symm
  have htarget : p.contains target.name := contains_iff.2 (mem_names_of_place place)
  unfold withHydration
  dsimp only
  rw [hname, if_pos htarget, splice_place h place]
  rfl

theorem apply_of_yields {edit : Edit} {q : Pipeline} (hyields : Yields p edit q) :
    edit.apply p = .ok q := by
  cases hyields with
  | append free => exact if_neg (mt contains_iff.1 free)
  | insertBefore place free => exact insertAt_place h place free _
  | insertAfter place free => exact insertAt_place h place free _
  | replace place free => exact replace_place h place free
  | remove place => exact remove_place h place
  | rehydrate place hydrates => exact congrArg _ (withHydration_place h place hydrates _)
  | hydrate free => exact congrArg Except.ok (if_neg (mt contains_iff.1 free))
  | addPlugin => rfl

theorem apply_of_refuses {edit : Edit} {e : CompileError} (hrefuses : Refuses p edit e) :
    edit.apply p = .error e := by
  cases hrefuses with
  | append taken => exact if_pos (contains_iff.2 taken)
  | @noAnchor side anchor phase missing =>
    have hinsert : ∀ around, p.insertAt anchor phase around =
        .error (.anchorNotFound anchor phase.name) :=
      fun around => if_pos (not_contains_iff.2 missing)
    cases side <;> exact hinsert _
  | @insert side anchor phase found taken =>
    have hinsert : ∀ around, p.insertAt anchor phase around =
        .error (.duplicatePhase phase.name) := by
      intro around
      unfold insertAt
      rw [if_neg (mt not_contains_iff.1 (not_not_intro found)), if_pos (contains_iff.2 taken)]
    cases side <;> exact hinsert _
  | nothingToReplace missing => exact if_pos (not_contains_iff.2 missing)
  | replace place taken =>
    rw [mem_others_iff h place, ← contains_iff] at taken
    have found := mem_names_of_place place
    change p.replace _ _ = _
    unfold replace
    rw [if_neg (mt not_contains_iff.1 (not_not_intro found)), if_pos taken]
  | nothingToRemove missing => exact if_pos (not_contains_iff.2 missing)

end Nodup

/-- The rules leave no edit out. -/
theorem yields_or_refuses (p : Pipeline) (edit : Edit) :
    (∃ q, Yields p edit q) ∨ ∃ e, Refuses p edit e := by
  cases edit with
  | append phase =>
    by_cases htaken : phase.name ∈ p.names
    · exact .inr ⟨_, .append htaken⟩
    · exact .inl ⟨_, .append htaken⟩
  | insert side anchor phase =>
    by_cases hanchor : anchor ∈ p.names
    · by_cases htaken : phase.name ∈ p.names
      · exact .inr ⟨_, .insert hanchor htaken⟩
      · obtain ⟨front, found, back, place, rfl⟩ := exists_place hanchor
        cases side with
        | before => exact .inl ⟨_, .insertBefore place htaken⟩
        | after => exact .inl ⟨_, .insertAfter place htaken⟩
    · exact .inr ⟨_, .noAnchor hanchor⟩
  | replace name phase =>
    by_cases htarget : name ∈ p.names
    · obtain ⟨front, found, back, place, rfl⟩ := exists_place htarget
      by_cases htaken : phase.name ∈ (front ++ back).map (·.name)
      · exact .inr ⟨_, .replace place htaken⟩
      · exact .inl ⟨_, .replace place htaken⟩
    · exact .inr ⟨_, .nothingToReplace htarget⟩
  | remove name =>
    by_cases htarget : name ∈ p.names
    · obtain ⟨front, found, back, place, rfl⟩ := exists_place htarget
      exact .inl ⟨_, .remove place⟩
    · exact .inr ⟨_, .nothingToRemove htarget⟩
  | withHydration hydrators =>
    by_cases htarget : "hydrate" ∈ p.names
    · obtain ⟨front, found, back, place, hname⟩ := exists_place htarget
      exact .inl ⟨_, .rehydrate place hname⟩
    · exact .inl ⟨_, .hydrate htarget⟩
  | addPlugin plugin => exact .inl ⟨_, .addPlugin⟩

/-! ## Distinct names -/

/-- A phase of a new name may stand anywhere. -/
theorem nodup_names_place {front back : List Phase} {phase : Phase}
    (free : phase.name ∉ (front ++ back).map (·.name))
    (h : ((front ++ back).map (·.name)).Nodup) :
    ((front ++ phase :: back).map (·.name)).Nodup := by
  rw [List.map_append, List.map_cons, List.nodup_middle, List.nodup_cons, ← List.map_append]
  exact ⟨free, h⟩

theorem nodup_names_others {p : Pipeline} (h : p.names.Nodup) {front back : List Phase}
    {found : Phase} (place : p.phases = front ++ found :: back) :
    ((front ++ back).map (·.name)).Nodup := by
  rw [names_of_place place, List.nodup_middle, List.nodup_cons, ← List.map_append] at h
  exact h.2

theorem Yields.nodup_names {p q : Pipeline} {edit : Edit} (hyields : Yields p edit q)
    (h : p.names.Nodup) : q.names.Nodup := by
  have hlast : ∀ phase : Phase, phase.name ∉ p.names →
      ((p.phases ++ [phase]).map (·.name)).Nodup := by
    intro phase free
    apply nodup_names_place
    · rwa [List.append_nil]
    · rwa [List.append_nil]
  cases hyields with
  | append free => exact hlast _ free
  | insertBefore place free =>
    unfold names at free h
    rw [place] at free h
    exact nodup_names_place free h
  | @insertAfter front back anchor phase place free =>
    unfold names at free h ⊢
    -- The anchor ends the part in front of the new phase.
    rw [place, List.append_cons] at free h
    rw [List.append_cons]
    exact nodup_names_place free h
  | replace place free => exact nodup_names_place free (nodup_names_others h place)
  | remove place => exact nodup_names_others h place
  | rehydrate place hydrates =>
    apply nodup_names_place _ (nodup_names_others h place)
    rw [mem_others_iff h place]
    exact fun hother => hother.1 hydrates.symm
  | hydrate free => exact hlast _ free
  | addPlugin => exact h

theorem yields_of_apply {p q : Pipeline} {edit : Edit} (h : p.names.Nodup)
    (hok : edit.apply p = .ok q) : Yields p edit q := by
  rcases yields_or_refuses p edit with ⟨made, hyields⟩ | ⟨e, hrefuses⟩
  · have hmade := apply_of_yields h hyields
    rw [hok, Except.ok.injEq] at hmade
    rwa [hmade]
  · have herror := apply_of_refuses h hrefuses
    rw [hok] at herror
    cases herror

theorem refuses_of_apply {p : Pipeline} {edit : Edit} {e : CompileError} (h : p.names.Nodup)
    (herror : edit.apply p = .error e) : Refuses p edit e := by
  rcases yields_or_refuses p edit with ⟨made, hyields⟩ | ⟨told, hrefuses⟩
  · have hok := apply_of_yields h hyields
    rw [herror] at hok
    cases hok
  · have htold := apply_of_refuses h hrefuses
    rw [herror, Except.error.injEq] at htold
    rwa [htold]

theorem Reachable.nodup_names {p : Pipeline} (h : Reachable p) : p.names.Nodup := by
  induction h with
  | builtIn => decide
  | empty => exact List.nodup_nil
  | edit _ made ih => exact (yields_of_apply ih made).nodup_names ih

/-- However edits made a pipeline, its phases have distinct names, and the next edit changes it
as the rules say, or fails as they say. -/
theorem reachable_edits {p : Pipeline} (h : Reachable p) :
    p.names.Nodup ∧
    (∀ edit q, edit.apply p = .ok q ↔ Yields p edit q) ∧
    ∀ edit e, edit.apply p = .error e ↔ Refuses p edit e := by
  have hnodup := h.nodup_names
  refine ⟨hnodup, ?_, ?_⟩
  · intro edit q
    exact ⟨yields_of_apply hnodup, apply_of_yields hnodup⟩
  · intro edit e
    exact ⟨refuses_of_apply hnodup, apply_of_refuses hnodup⟩

/-- A check of one's own between two built-in phases: it can be removed again, has no second place
and cannot take the place of another phase. -/
theorem reachable_edits_checked :
    let check : Phase := ⟨"check", "Looks at nothing", .transform .ok⟩
    let checked : Pipeline :=
      { phases := [.imports, .link, .validate Lint.standard, check, .conformance, .defaults,
          .hydrate []] }
    Reachable checked ∧ checked.names.Nodup ∧ Yields checked (.remove "check") standard ∧
      Refuses checked (.insert .before "nope" check) (.anchorNotFound "nope" "check") ∧
      Refuses checked (.replace "link" check) (.duplicatePhase "check") := by
  intro check checked
  have hreachable : Reachable checked :=
    @Reachable.edit _ _ (.insert .after "validate" check) .builtIn rfl
  obtain ⟨hnodup, hyields, hrefuses⟩ := reachable_edits hreachable
  exact ⟨hreachable, hnodup, (hyields (.remove "check") standard).1 rfl,
    (hrefuses (.insert .before "nope" check) _).1 rfl,
    (hrefuses (.replace "link" check) _).1 rfl⟩

end GraphSchema.Pipeline
