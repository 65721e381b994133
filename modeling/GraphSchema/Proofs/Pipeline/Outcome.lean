import GraphSchema.Compile.Pipeline
import GraphSchema.Proofs.Hydration
import GraphSchema.Proofs.Linking
import GraphSchema.Proofs.Sdl.Literals
import GraphSchema.Results

/-!
# Outcomes of runs

Plugins can stop a run but do not change what it computes. The built-in phases resolve the
imports, link, check what was linked and hydrate it.
-/

namespace GraphSchema.Pipeline

/-! ## Phases one after the other -/

theorem result_bind {α β : Type} (run : Run α) (next : α → Run β) :
    (run >>= next).result = run.result >>= fun value => (next value).result := by
  change (Run.bind run next).result = _
  unfold Run.bind
  cases run.result <;> rfl

theorem result_pure {α : Type} (value : α) : (pure value : Run α).result = .ok value :=
  rfl

theorem result_work (phase : Phase) (input : Schema) :
    (work phase input).result = (phase.run input).mapError fun errors => ⟨phase.name, errors⟩ :=
  rfl

/-- A phase that ended well gave what it gives by itself. -/
theorem run_of_runPhase {plugins : List Plugin} {phase : Phase} {input output : Schema}
    (h : (runPhase plugins phase input).result = .ok output) : phase.run input = .ok output := by
  simp only [runPhase, result_bind, result_pure, bind_eq_ok_iff] at h
  obtain ⟨-, -, value, hwork, -, -, hvalue⟩ := h
  cases hvalue
  exact mapError_eq_ok_iff.1 hwork

theorem runPhase_nil_of_run {phase : Phase} {input output : Schema}
    (h : phase.run input = .ok output) : (runPhase [] phase input).result = .ok output := by
  simp only [runPhase, result_bind, result_pure, bind_eq_ok_iff]
  exact ⟨(), rfl, output, mapError_eq_ok_iff.2 h, (), rfl, rfl⟩

/-- The phases by themselves, each on the output of the one before. -/
def chain (phases : List Phase) (schema : Schema) : Checked Schema :=
  phases.foldlM (fun schema phase => phase.run schema) schema

theorem chain_of_runPhases {plugins : List Plugin} {phases : List Phase}
    {schema compiled : Schema} (h : (runPhases plugins phases schema).result = .ok compiled) :
    chain phases schema = .ok compiled := by
  induction phases generalizing schema with
  | nil => exact congrArg _ (Except.ok.inj h)
  | cons phase rest ih =>
    simp only [runPhases, result_bind, bind_eq_ok_iff] at h
    obtain ⟨output, hphase, hrest⟩ := h
    rw [chain, List.foldlM_cons, bind_eq_ok_iff]
    exact ⟨output, run_of_runPhase hphase, ih hrest⟩

theorem runPhases_nil_of_chain {phases : List Phase} {schema compiled : Schema}
    (h : chain phases schema = .ok compiled) :
    (runPhases [] phases schema).result = .ok compiled := by
  induction phases generalizing schema with
  | nil => exact congrArg _ (Except.ok.inj h)
  | cons phase rest ih =>
    rw [chain, List.foldlM_cons, bind_eq_ok_iff] at h
    obtain ⟨output, hphase, hrest⟩ := h
    simp only [runPhases, result_bind, bind_eq_ok_iff]
    exact ⟨output, runPhase_nil_of_run hphase, ih hrest⟩

/-! ## The built-in phases -/

/-- The schema passes every check of the built-in phases. -/
structure Accepted (schema : Schema) : Prop where
  links : Linking.errors schema = []
  lints : Lint.standard.flatMap (·.check schema) = []
  conforms : Conformance.errors schema = []
  defaults : Defaults.errors schema = []

/-- The built-in phases succeed if the imports resolve and the linked schema is accepted. -/
theorem chain_standard_iff {hydrators : List Hydration.Hydrator} {schema compiled : Schema} :
    chain (standard hydrators).phases schema = .ok compiled ↔
      ∃ imported, Imports.run schema = .ok imported ∧ Accepted (Linking.linked imported) ∧
        compiled = Hydration.run hydrators (Linking.linked imported) := by
  simp only [chain, standard, List.foldlM_cons, List.foldlM_nil, bind_eq_ok_iff]
  constructor
  · rintro ⟨imported, himports, _, hlink, _, hlint, _, hconform, _, hdefault, _, hhydrate,
      hlast⟩
    obtain ⟨hlinks, rfl⟩ := Checked.unless_eq_ok_iff.1 ((Linking.run_eq imported).symm.trans hlink)
    obtain ⟨hlints, rfl⟩ := Checked.unless_eq_ok_iff.1 hlint
    obtain ⟨hconforms, rfl⟩ := Checked.unless_eq_ok_iff.1 hconform
    obtain ⟨hdefaults, rfl⟩ := Checked.unless_eq_ok_iff.1 hdefault
    cases hhydrate
    cases hlast
    rw [← Linking.errors_linked] at hlinks
    exact ⟨imported, himports, ⟨hlinks, hlints, hconforms, hdefaults⟩, rfl⟩
  · rintro ⟨imported, himports, haccepted, rfl⟩
    have hlinks := haccepted.links
    rw [Linking.errors_linked] at hlinks
    exact ⟨imported, himports,
      _, (Linking.run_eq imported).trans (Checked.unless_eq_ok_iff.2 ⟨hlinks, rfl⟩),
      _, Checked.unless_eq_ok_iff.2 ⟨haccepted.lints, rfl⟩,
      _, Checked.unless_eq_ok_iff.2 ⟨haccepted.conforms, rfl⟩,
      _, Checked.unless_eq_ok_iff.2 ⟨haccepted.defaults, rfl⟩, _, rfl, rfl⟩

theorem defaultErrors_withBehaviors (schema : Schema) (behaviors : BehaviorTable) :
    Defaults.errors { schema with behaviors } = Defaults.errors schema := by
  have hvalue : Defaults.valueErrors { schema with behaviors } = Defaults.valueErrors schema := by
    funext type default
    cases default with
    | none => rfl
    | some value =>
      simp only [Defaults.valueErrors]
      rw [Sdl.literal_congr]
      intro input name value
      rfl
  have hfield : Defaults.fieldErrors { schema with behaviors } = Defaults.fieldErrors schema := by
    funext field
    simp only [Defaults.fieldErrors, hvalue]
  rw [Defaults.errors, Defaults.errors, hfield]
  rfl

/-- No check reads behaviors. -/
theorem Accepted.withBehaviors {schema : Schema} (h : Accepted schema) (behaviors : BehaviorTable) :
    Accepted { schema with behaviors } := by
  refine ⟨h.links, h.lints, h.conforms, ?_⟩
  rw [defaultErrors_withBehaviors, h.defaults]

/-- What the built-in phases return is accepted, whatever plugins observe the run. -/
theorem accepted_of_compile {hydrators : List Hydration.Hydrator} {plugins : List Plugin}
    {schema compiled : Schema}
    (h : { standard hydrators with plugins }.compile schema = .ok compiled) :
    Accepted compiled := by
  obtain ⟨imported, -, haccepted, rfl⟩ := chain_standard_iff.1 (chain_of_runPhases h)
  rw [Hydration.run_eq]
  exact haccepted.withBehaviors _

end GraphSchema.Pipeline
