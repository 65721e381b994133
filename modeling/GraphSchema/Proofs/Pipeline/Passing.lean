import GraphSchema.Proofs.Pipeline.Outcome

/-!
# Phases that pass

A phase of a run passes if its hooks and the phase itself succeed. The run goes on to the next phase
with the output of one that passed.
-/

namespace GraphSchema.Pipeline

/-- The phase succeeds on the input, and so do the hooks before it and the first hooks after it. -/
structure Passes (plugins : List Plugin) (count : Nat) (phase : Phase) (input output : Schema) :
    Prop where
  before : ∀ plugin ∈ plugins, plugin.before phase.name input = .ok ()
  run : phase.run input = .ok output
  after : ∀ plugin ∈ plugins.take count, plugin.after phase.name output = .ok ()

/-- The phases in front of the one at a place pass with all hooks and make its input. -/
inductive Reaches (plugins : List Plugin) (phases : List Phase) (start : Schema) :
    Nat → Schema → Prop where
  | start : Reaches plugins phases start 0 start
  | step {k : Nat} {phase : Phase} {input output : Schema}
      (reached : Reaches plugins phases start k input) (found : phases[k]? = some phase)
      (passes : Passes plugins plugins.length phase input output) :
    Reaches plugins phases start (k + 1) output

theorem Passes.output_unique {plugins : List Plugin} {count count' : Nat} {phase : Phase}
    {input output output' : Schema} (h : Passes plugins count phase input output)
    (h' : Passes plugins count' phase input output') : output' = output :=
  Except.ok.inj (h'.run.symm.trans h.run)

theorem Passes.mono {plugins : List Plugin} {phase : Phase} {input output : Schema}
    (h : Passes plugins plugins.length phase input output) (count : Nat) :
    Passes plugins count phase input output where
  before := h.before
  run := h.run
  after plugin hplugin := by
    have hafter := h.after
    rw [List.take_length] at hafter
    exact hafter plugin (List.mem_of_mem_take hplugin)

theorem reaches_zero_iff {plugins : List Plugin} {phases : List Phase} {start input : Schema} :
    Reaches plugins phases start 0 input ↔ input = start := by
  constructor
  · rintro ⟨⟩
    rfl
  · rintro rfl
    exact .start

/-- What comes behind the first phase starts from its output. -/
theorem reaches_cons_iff {plugins : List Plugin} {phase : Phase} {phases : List Phase}
    {start input : Schema} {k : Nat} :
    Reaches plugins (phase :: phases) start (k + 1) input ↔
      ∃ output, Passes plugins plugins.length phase start output ∧
        Reaches plugins phases output k input := by
  constructor
  · intro h
    generalize hplace : k + 1 = place at h
    induction h generalizing k with
    | start => cases hplace
    | @step j other middle result reached found passes ih =>
      obtain rfl : k = j := by omega
      cases k with
      | zero =>
        rw [reaches_zero_iff] at reached
        cases reached
        cases found
        exact ⟨result, passes, .start⟩
      | succ k =>
        obtain ⟨output, hfirst, hreached⟩ := ih rfl
        exact ⟨output, hfirst, hreached.step found passes⟩
  · rintro ⟨output, hpasses, hreached⟩
    induction hreached with
    | start => exact .step .start rfl hpasses
    | step _ found passes ih => exact .step ih found passes

/-- What the observer at a place among the plugins is shown of the phase at `k`. -/
inductive Shows (plugins : List Plugin) (phases : List Phase) (place : Nat) (start : Schema) :
    Nat → String × Schema → Prop where
  | intro {k : Nat} {phase : Phase} {input output : Schema} (found : phases[k]? = some phase)
      (reached : Reaches plugins phases start k input)
      (passes : Passes plugins place phase input output) :
    Shows plugins phases place start k (phase.name, output)

theorem shows_zero_iff {plugins : List Plugin} {phase : Phase} {phases : List Phase} {place : Nat}
    {start : Schema} {sight : String × Schema} :
    Shows plugins (phase :: phases) place start 0 sight ↔
      ∃ output, Passes plugins place phase start output ∧ sight = (phase.name, output) := by
  constructor
  · rintro ⟨⟨⟩, reached, passes⟩
    rw [reaches_zero_iff.1 reached] at passes
    exact ⟨_, passes, rfl⟩
  · rintro ⟨output, passes, rfl⟩
    exact .intro rfl .start passes

theorem shows_succ_iff {plugins : List Plugin} {phase : Phase} {phases : List Phase} {place : Nat}
    {start : Schema} {k : Nat} {sight : String × Schema} :
    Shows plugins (phase :: phases) place start (k + 1) sight ↔
      ∃ output, Passes plugins plugins.length phase start output ∧
        Shows plugins phases place output k sight := by
  constructor
  · rintro ⟨found, reached, passes⟩
    obtain ⟨output, hfirst, hreached⟩ := reaches_cons_iff.1 reached
    exact ⟨output, hfirst, .intro found hreached passes⟩
  · rintro ⟨output, hfirst, ⟨found, reached, passes⟩⟩
    exact .intro found (reaches_cons_iff.2 ⟨output, hfirst, reached⟩) passes

/-! ## Hooks -/

theorem calls_bind {α β : Type} (run : Run α) (next : α → Run β) :
    (run >>= next).calls = run.calls ++ match run.result with
      | .ok value => (next value).calls
      | .error _ => [] := by
  change (Run.bind run next).calls = _
  unfold Run.bind
  cases run.result with
  | ok value => rfl
  | error e => exact (List.append_nil _).symm

/-- Hooks that are called one after the other, before a phase or after it. -/
theorem result_hooks_iff {phase : String} (call : Nat → Plugin → Call)
    (answer : Plugin → Except String Unit) (hooks : Nat → List Plugin → Run Unit)
    (hnil : ∀ place, hooks place [] = .pure ())
    (hcons : ∀ place plugin rest, hooks place (plugin :: rest) =
      match answer plugin with
      | .error message => ⟨[call place plugin], .error ⟨phase, [.plugin plugin.name message]⟩⟩
      | .ok () => Run.bind ⟨[call place plugin], .ok ()⟩ fun _ => hooks (place + 1) rest)
    (plugins : List Plugin) (place : Nat) :
    (hooks place plugins).result = .ok () ↔ ∀ plugin ∈ plugins, answer plugin = .ok () := by
  induction plugins generalizing place with
  | nil =>
    rw [hnil]
    exact iff_of_true rfl (List.forall_mem_nil _)
  | cons plugin rest ih =>
    rw [List.forall_mem_cons, hcons]
    cases answer plugin with
    | error message => exact iff_of_false nofun fun h => nomatch h.1
    | ok value => exact (ih (place + 1)).trans (and_iff_right rfl).symm

theorem result_beforeHooks_iff {phase : String} {input : Schema} {plugins : List Plugin} :
    (beforeHooks phase input 0 plugins).result = .ok () ↔
      ∀ plugin ∈ plugins, plugin.before phase input = .ok () :=
  result_hooks_iff (fun place plugin => .before place plugin.name phase input)
    (·.before phase input) (beforeHooks phase input) (fun _ => rfl) (fun _ _ _ => rfl) plugins 0

theorem result_afterHooks_iff {phase : String} {output : Schema} {plugins : List Plugin} :
    (afterHooks phase output 0 plugins).result = .ok () ↔
      ∀ plugin ∈ plugins, plugin.after phase output = .ok () :=
  result_hooks_iff (fun place plugin => .after place plugin.name phase output)
    (·.after phase output) (afterHooks phase output) (fun _ => rfl) (fun _ _ _ => rfl) plugins 0

/-- A phase passes with all hooks exactly if its part of the run succeeds. -/
theorem runPhase_eq_ok_iff {plugins : List Plugin} {phase : Phase} {input output : Schema} :
    (runPhase plugins phase input).result = .ok output ↔
      Passes plugins plugins.length phase input output := by
  simp only [runPhase, result_bind, result_pure, result_work, bind_eq_ok_iff, mapError_eq_ok_iff]
  constructor
  · rintro ⟨⟨⟩, hbefore, value, hrun, ⟨⟩, hafter, heq⟩
    cases heq
    refine ⟨result_beforeHooks_iff.1 hbefore, hrun, ?_⟩
    rw [List.take_length]
    exact result_afterHooks_iff.1 hafter
  · rintro ⟨hbefore, hrun, hafter⟩
    rw [List.take_length] at hafter
    exact ⟨(), result_beforeHooks_iff.2 hbefore, output, hrun, (),
      result_afterHooks_iff.2 hafter, rfl⟩

end GraphSchema.Pipeline
