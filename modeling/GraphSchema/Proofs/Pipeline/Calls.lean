import GraphSchema.Proofs.Pipeline.Outcome

/-!
# Calls of runs

A run calls hooks and phases in a fixed order and stops at the first call that fails. Within one
run a hook sees a phase at most once, so a hook that answers differently from run to run is, for
each run, a function like any other.
-/

namespace GraphSchema.Pipeline

/-! ## The order of calls -/

def beforeCalls (plugins : List Plugin) (phase : String) (input : Schema) : List Call :=
  plugins.zipIdx.map fun (plugin, place) => .before place plugin.name phase input

def afterCalls (plugins : List Plugin) (phase : String) (output : Schema) : List Call :=
  plugins.zipIdx.map fun (plugin, place) => .after place plugin.name phase output

/-- The calls around a phase. Without an output there is nothing to call after it. -/
def phaseCalls (plugins : List Plugin) (phase : Phase) (input : Schema) : List Call :=
  beforeCalls plugins phase.name input ++ .phase phase input ::
    match phase.run input with
    | .ok output => afterCalls plugins phase.name output
    | .error _ => []

/-- The calls of all phases, each on the output of the one before. -/
def schedule (plugins : List Plugin) : List Phase → Schema → List Call
  | [], _ => []
  | phase :: phases, input =>
    phaseCalls plugins phase input ++
      match phase.run input with
      | .ok output => schedule plugins phases output
      | .error _ => []

/-! ## Failing calls -/

def hookFailure? (phase : String) (plugin : Plugin) : Except String Unit → Option PipelineError
  | .ok () => none
  | .error message => some ⟨phase, [.plugin plugin.name message]⟩

/-- The error of a run that the call ends, if the call fails: the errors of the phase, or the one
error of the plugin, under the name of the phase. -/
def Call.failure? (plugins : List Plugin) : Call → Option PipelineError
  | before place _ name input =>
    plugins[place]?.bind fun plugin => hookFailure? name plugin (plugin.before name input)
  | phase step input =>
    match step.run input with
    | .ok _ => none
    | .error errors => some ⟨step.name, errors⟩
  | after place _ name output =>
    plugins[place]?.bind fun plugin => hookFailure? name plugin (plugin.after name output)

def Call.isHook : Call → Bool
  | phase .. => false
  | _ => true

/-- The run made the calls up to the first that fails, and ended with the error of that one. -/
inductive Follows (plugins : List Plugin) {α : Type} : List Call → Run α → Prop where
  | ends {calls : List Call} {value : α}
      (succeed : ∀ call ∈ calls, call.failure? plugins = none) :
    Follows plugins calls ⟨calls, .ok value⟩
  | stops {made rest : List Call} {last : Call} {error : PipelineError}
      (succeed : ∀ call ∈ made, call.failure? plugins = none)
      (fails : last.failure? plugins = some error) :
    Follows plugins (made ++ last :: rest) ⟨made ++ [last], .error error⟩

/-! ## Runs one after the other -/

section Follows

variable {plugins : List Plugin} {α β : Type}

theorem Follows.bind {calls rest : List Call} {run : Run α} {next : α → Run β}
    (h : Follows plugins calls run)
    (hnext : ∀ value, run.result = .ok value → Follows plugins rest (next value)) :
    Follows plugins (calls ++ rest) (run >>= next) := by
  cases h with
  | @ends _ value succeed =>
    have hbind : ((⟨calls, .ok value⟩ : Run α) >>= next) =
        ⟨calls ++ (next value).calls, (next value).result⟩ := rfl
    rw [hbind]
    have hfollows := hnext value rfl
    generalize next value = after at hfollows
    cases hfollows with
    | ends succeed' => exact .ends (List.forall_mem_append.2 ⟨succeed, succeed'⟩)
    | stops succeed' fails =>
      rw [← List.append_assoc, ← List.append_assoc]
      exact .stops (List.forall_mem_append.2 ⟨succeed, succeed'⟩) fails
  | stops succeed fails =>
    rw [List.append_assoc, List.cons_append]
    exact .stops succeed fails

theorem follows_pure (value : α) : Follows plugins [] (pure value : Run α) :=
  .ends (List.forall_mem_nil _)

theorem follows_failing {call : Call} {error : PipelineError}
    (fails : call.failure? plugins = some error) (rest : List Call) :
    Follows plugins (call :: rest) (⟨[call], .error error⟩ : Run α) := by
  have hstops : Follows plugins ([] ++ call :: rest) (⟨[] ++ [call], .error error⟩ : Run α) :=
    .stops (List.forall_mem_nil _) fails
  exact hstops

theorem follows_succeeding {call : Call} (succeeds : call.failure? plugins = none) (value : α) :
    Follows plugins [call] (⟨[call], .ok value⟩ : Run α) :=
  .ends (List.forall_mem_singleton.2 succeeds)

end Follows

/-! ## Hooks and phases -/

section Hooks

variable {all : List Plugin} {phase : String} (call : Nat → Plugin → Call)
  (answer : Plugin → Except String Unit) (hooks : Nat → List Plugin → Run Unit)

/-- Hooks that are called one after the other, before a phase or after it. -/
theorem follows_hooks
    (hnil : ∀ place, hooks place [] = .pure ())
    (hcons : ∀ place plugin rest, hooks place (plugin :: rest) =
      match answer plugin with
      | .error message => ⟨[call place plugin], .error ⟨phase, [.plugin plugin.name message]⟩⟩
      | .ok () => Run.bind ⟨[call place plugin], .ok ()⟩ fun _ => hooks (place + 1) rest)
    (hfailure : ∀ place plugin, all[place]? = some plugin →
      (call place plugin).failure? all = hookFailure? phase plugin (answer plugin))
    (plugins : List Plugin) (place : Nat) (hplace : ∀ i, plugins[i]? = all[place + i]?) :
    Follows all ((plugins.zipIdx place).map fun entry => call entry.2 entry.1)
      (hooks place plugins) := by
  induction plugins generalizing place with
  | nil =>
    rw [hnil]
    exact follows_pure ()
  | cons plugin rest ih =>
    have hfirst : (call place plugin).failure? all = hookFailure? phase plugin (answer plugin) :=
      hfailure place plugin (hplace 0).symm
    have hrest : ∀ i, rest[i]? = all[place + 1 + i]? := by
      intro i
      rw [Nat.add_right_comm]
      exact hplace (i + 1)
    rw [hcons, List.zipIdx_cons, List.map_cons]
    cases hanswer : answer plugin with
    | error message =>
      rw [hanswer] at hfirst
      exact follows_failing hfirst _
    | ok value =>
      rw [hanswer] at hfirst
      exact (follows_succeeding hfirst ()).bind fun _ _ => ih (place + 1) hrest

end Hooks

theorem follows_beforeHooks (plugins : List Plugin) (phase : String) (input : Schema) :
    Follows plugins (beforeCalls plugins phase input) (beforeHooks phase input 0 plugins) := by
  refine follows_hooks (fun place plugin => .before place plugin.name phase input)
    (fun plugin => plugin.before phase input) (beforeHooks phase input) (fun _ => rfl)
    (fun _ _ _ => rfl) ?_ plugins 0 (by simp)
  intro place plugin hplugin
  rw [Call.failure?, hplugin, Option.bind_some]

theorem follows_afterHooks (plugins : List Plugin) (phase : String) (output : Schema) :
    Follows plugins (afterCalls plugins phase output) (afterHooks phase output 0 plugins) := by
  refine follows_hooks (fun place plugin => .after place plugin.name phase output)
    (fun plugin => plugin.after phase output) (afterHooks phase output) (fun _ => rfl)
    (fun _ _ _ => rfl) ?_ plugins 0 (by simp)
  intro place plugin hplugin
  rw [Call.failure?, hplugin, Option.bind_some]

theorem follows_work (plugins : List Plugin) (phase : Phase) (input : Schema) :
    Follows plugins [.phase phase input] (work phase input) := by
  unfold work
  cases hrun : phase.run input with
  | error errors =>
    refine follows_failing ?_ []
    rw [Call.failure?, hrun]
  | ok output =>
    refine follows_succeeding ?_ output
    rw [Call.failure?, hrun]

theorem follows_runPhase (plugins : List Plugin) (phase : Phase) (input : Schema) :
    Follows plugins (phaseCalls plugins phase input) (runPhase plugins phase input) := by
  unfold phaseCalls runPhase
  refine (follows_beforeHooks plugins phase.name input).bind fun _ _ => ?_
  rw [← List.singleton_append]
  refine (follows_work plugins phase input).bind fun output houtput => ?_
  rw [result_work, mapError_eq_ok_iff] at houtput
  rw [houtput]
  dsimp only
  rw [← List.append_nil (afterCalls _ _ _)]
  exact (follows_afterHooks plugins phase.name output).bind fun _ _ => follows_pure output

theorem follows_runPhases (plugins : List Plugin) (phases : List Phase) (input : Schema) :
    Follows plugins (schedule plugins phases input) (runPhases plugins phases input) := by
  induction phases generalizing input with
  | nil => exact follows_pure input
  | cons phase rest ih =>
    refine (follows_runPhase plugins phase input).bind fun output houtput => ?_
    rw [run_of_runPhase houtput]
    exact ih output

/-! ## Runs without plugins -/

/-- The error of a run, if it failed. -/
def Run.error? {α : Type} (run : Run α) : Option PipelineError :=
  match run.result with
  | .ok _ => none
  | .error error => some error

theorem Follows.error?_eq {plugins : List Plugin} {α : Type} {calls : List Call} {run : Run α}
    (h : Follows plugins calls run) : run.error? = calls.findSome? (Call.failure? plugins) := by
  cases h with
  | ends succeed => exact (List.findSome?_eq_none_iff.2 succeed).symm
  | stops succeed fails =>
    rw [List.findSome?_append, List.findSome?_eq_none_iff.2 succeed, List.findSome?_cons, fails]
    rfl

/-- Plugins decide on hooks only. -/
theorem failure?_phase (plugins : List Plugin) {call : Call} (h : call.isHook = false) :
    call.failure? plugins = call.failure? [] := by
  cases call with
  | phase => rfl
  | before | after => cases h

/-- A run in which no hook fails also follows the calls of the phases alone. -/
theorem Follows.withoutHooks {plugins : List Plugin} {α : Type} {calls : List Call} {run : Run α}
    (h : Follows plugins calls run)
    (hquiet : ∀ call ∈ run.calls, call.isHook → call.failure? plugins = none) :
    Follows [] (calls.filter (!·.isHook)) ⟨run.calls.filter (!·.isHook), run.result⟩ := by
  have hphases : ∀ calls : List Call, (∀ call ∈ calls, call.failure? plugins = none) →
      ∀ call ∈ calls.filter (!·.isHook), call.failure? [] = none := by
    intro calls succeed call hcall
    rw [List.mem_filter, Bool.not_eq_true'] at hcall
    rw [← failure?_phase plugins hcall.2]
    exact succeed call hcall.1
  cases h with
  | ends succeed => exact .ends (hphases _ succeed)
  | @stops made rest last error succeed fails =>
    -- The call that ended the run is a phase, so the run without plugins ends there too.
    have hlast : last.isHook = false := by
      rw [← Bool.not_eq_true]
      intro hhook
      have hnone := hquiet last (List.mem_append_right _ List.mem_cons_self) hhook
      rw [fails] at hnone
      cases hnone
    rw [failure?_phase plugins hlast] at fails
    rw [List.filter_append, List.filter_append, List.filter_cons_of_pos (by simp [hlast]),
      List.filter_cons_of_pos (by simp [hlast]), List.filter_nil]
    exact .stops (hphases _ succeed) fails

theorem filter_phaseCalls (plugins : List Plugin) (phase : Phase) (input : Schema) :
    (phaseCalls plugins phase input).filter (!·.isHook) = phaseCalls [] phase input := by
  have hhooks : ∀ call : Plugin × Nat → Call, (∀ entry, (call entry).isHook) →
      (plugins.zipIdx.map call).filter (!·.isHook) = [] := by
    intro call hcall
    rw [List.filter_eq_nil_iff, List.forall_mem_map]
    intro entry _
    rw [hcall entry]
    exact Bool.false_ne_true
  unfold phaseCalls beforeCalls afterCalls
  rw [List.filter_append, hhooks _ fun _ => rfl, List.filter_cons_of_pos rfl]
  cases phase.run input with
  | error errors => rfl
  | ok output =>
    dsimp only
    rw [hhooks _ fun _ => rfl]
    rfl

theorem filter_schedule (plugins : List Plugin) (phases : List Phase) (input : Schema) :
    (schedule plugins phases input).filter (!·.isHook) = schedule [] phases input := by
  induction phases generalizing input with
  | nil => rfl
  | cons phase rest ih =>
    rw [schedule, schedule, List.filter_append, filter_phaseCalls]
    cases phase.run input with
    | error errors => rfl
    | ok output =>
      dsimp only
      rw [ih]

theorem error?_withoutPlugins {plugins : List Plugin} {phases : List Phase} {input : Schema}
    (hquiet : ∀ call ∈ (runPhases plugins phases input).calls, call.isHook →
      call.failure? plugins = none) :
    (runPhases [] phases input).error? = (runPhases plugins phases input).error? := by
  have hphases := (follows_runPhases plugins phases input).withoutHooks hquiet
  rw [filter_schedule] at hphases
  rw [(follows_runPhases [] phases input).error?_eq, ← hphases.error?_eq]
  rfl

theorem result_withoutPlugins {plugins : List Plugin} {phases : List Phase} {input : Schema}
    (hquiet : ∀ call ∈ (runPhases plugins phases input).calls, call.isHook →
      call.failure? plugins = none) :
    (runPhases plugins phases input).result = (runPhases [] phases input).result := by
  have herror := error?_withoutPlugins hquiet
  unfold Run.error? at herror
  cases hresult : (runPhases plugins phases input).result with
  | ok output => exact (runPhases_nil_of_chain (chain_of_runPhases hresult)).symm
  | error error =>
    rw [hresult] at herror
    split at herror
    · cases herror
    · rename_i other hother
      rw [hother, Option.some.inj herror]

/-- A run makes the calls of the schedule up to the first that fails, and ends with the error of
that one. If none fails, its value is what the phases make of the schema one after the other.
Unless a hook fails, the outcome is that of the phases without plugins. -/
theorem run_follows_schedule (p : Pipeline) (schema : Schema) :
    Follows p.plugins (schedule p.plugins p.phases schema) (p.run schema) ∧
    (∀ compiled, p.compile schema = .ok compiled → chain p.phases schema = .ok compiled) ∧
    ((∀ call ∈ (p.run schema).calls, call.isHook → call.failure? p.plugins = none) →
      p.compile schema = { p with plugins := [] }.compile schema) :=
  ⟨follows_runPhases p.plugins p.phases schema, fun _ => chain_of_runPhases,
    result_withoutPlugins⟩

/-- Two observers see the first phase on both sides and the second one only before it fails. -/
theorem run_follows_schedule_refused :
    let tidy : Phase := ⟨"tidy", "Changes nothing", .transform .ok⟩
    let refuse : Phase := ⟨"refuse", "Fails", .transform fun _ => .error [.custom "no"]⟩
    let p : Pipeline :=
      { phases := [tidy, refuse, tidy], plugins := [{ name := "count" }, { name := "watch" }] }
    let schema := Schema.initial
    (p.run schema).calls =
        [.before 0 "count" "tidy" schema, .before 1 "watch" "tidy" schema, .phase tidy schema,
          .after 0 "count" "tidy" schema, .after 1 "watch" "tidy" schema,
          .before 0 "count" "refuse" schema, .before 1 "watch" "refuse" schema,
          .phase refuse schema] ∧
      Follows p.plugins (schedule p.plugins p.phases schema) (p.run schema) ∧
      (∀ call ∈ (p.run schema).calls, call.isHook → call.failure? p.plugins = none) ∧
      p.compile schema = .error ⟨"refuse", [.custom "no"]⟩ ∧
      p.compile schema = { p with plugins := [] }.compile schema := by
  intro tidy refuse p schema
  obtain ⟨hfollows, -, hquiet⟩ := run_follows_schedule p schema
  have hmade : (p.run schema).calls =
      [.before 0 "count" "tidy" schema, .before 1 "watch" "tidy" schema, .phase tidy schema,
        .after 0 "count" "tidy" schema, .after 1 "watch" "tidy" schema,
        .before 0 "count" "refuse" schema, .before 1 "watch" "refuse" schema,
        .phase refuse schema] := rfl
  have hsilent : ∀ call ∈ (p.run schema).calls, call.isHook → call.failure? p.plugins = none := by
    rw [hmade]
    simp only [List.forall_mem_cons]
    exact ⟨fun _ => rfl, fun _ => rfl, nofun, fun _ => rfl, fun _ => rfl, fun _ => rfl,
      fun _ => rfl, nofun, List.forall_mem_nil _⟩
  exact ⟨hmade, hfollows, hsilent, rfl, hquiet hsilent⟩

end GraphSchema.Pipeline
