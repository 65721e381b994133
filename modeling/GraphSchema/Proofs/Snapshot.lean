import GraphSchema.Command.Run
import GraphSchema.Proofs.Files.Writing
import GraphSchema.Proofs.Pipeline.Passing

/-!
# Snapshots of many runs

An observer that is a plugin of many pipelines takes a snapshot of every phase whose hooks reach it.
Snapshots are numbered over all runs, so no two have one file name.
-/

namespace GraphSchema.Snapshot

open Pipeline

/-! ## What an observer is shown -/

/-- What the calls of a run show to the observer at a place among the plugins. -/
def shown (place : Nat) (calls : List Call) : List (String × Schema) :=
  calls.filterMap (seen? (some place))

theorem shown_append (place : Nat) (calls rest : List Call) :
    shown place (calls ++ rest) = shown place calls ++ shown place rest :=
  List.filterMap_append

theorem shown_beforeHooks (place : Nat) (phase : String) (input : Schema) (first : Nat)
    (plugins : List Plugin) : shown place (beforeHooks phase input first plugins).calls = [] := by
  induction plugins generalizing first with
  | nil => rfl
  | cons plugin rest ih =>
    rw [beforeHooks]
    cases plugin.before phase input with
    | error message => rfl
    | ok value => exact ih (first + 1)

theorem shown_afterHooks_of_lt {place first : Nat} (h : place < first) (phase : String)
    (output : Schema) (plugins : List Plugin) :
    shown place (afterHooks phase output first plugins).calls = [] := by
  induction plugins generalizing first with
  | nil => rfl
  | cons plugin rest ih =>
    have hskip : seen? (some place) (.after first plugin.name phase output) = none :=
      if_neg fun heq => Nat.ne_of_lt h (Option.some.inj heq)
    rw [afterHooks]
    cases plugin.after phase output with
    | error message =>
      rw [shown, List.filterMap_cons_none hskip]
      rfl
    | ok value =>
      change shown place (_ :: _) = _
      rw [shown, List.filterMap_cons_none hskip]
      exact ih (Nat.lt_succ_of_lt h)

/-- The hook at a place is called if none in front of it fails. -/
theorem shown_afterHooks {first offset : Nat} {plugins : List Plugin}
    (hoffset : offset < plugins.length) (phase : String) (output : Schema) :
    (∀ plugin ∈ plugins.take offset, plugin.after phase output = .ok ()) ∧
      shown (first + offset) (afterHooks phase output first plugins).calls = [(phase, output)] ∨
    ¬ (∀ plugin ∈ plugins.take offset, plugin.after phase output = .ok ()) ∧
      shown (first + offset) (afterHooks phase output first plugins).calls = [] := by
  induction plugins generalizing first offset with
  | nil => cases hoffset
  | cons plugin rest ih =>
    rw [afterHooks]
    cases offset with
    | zero =>
      have hseen : seen? (some (first + 0)) (.after first plugin.name phase output) =
        some (phase, output) := if_pos rfl
      refine .inl ⟨List.forall_mem_nil _, ?_⟩
      cases plugin.after phase output with
      | error message => exact List.filterMap_cons_some hseen
      | ok value =>
        refine (List.filterMap_cons_some hseen).trans ?_
        congr 1
        exact shown_afterHooks_of_lt (Nat.lt_succ_self first) phase output rest
    | succ offset =>
      have hskip : seen? (some (first + (offset + 1))) (.after first plugin.name phase output) =
        none := if_neg (by simp)
      rw [List.take_succ_cons, List.forall_mem_cons]
      cases plugin.after phase output with
      | error message => exact .inr ⟨(nomatch ·.1), List.filterMap_cons_none hskip⟩
      | ok value =>
        have hrest : shown (first + (offset + 1))
            (Run.bind ⟨[.after first plugin.name phase output], .ok ()⟩ fun _ =>
              afterHooks phase output (first + 1) rest).calls =
            shown (first + 1 + offset) (afterHooks phase output (first + 1) rest).calls := by
          rw [Nat.add_right_comm]
          exact List.filterMap_cons_none hskip
        dsimp only
        rw [hrest, eq_self, true_and]
        exact ih (Nat.lt_of_succ_lt_succ hoffset)

theorem shown_work (place : Nat) (phase : Phase) (input : Schema) :
    shown place (work phase input).calls = [] :=
  rfl

/-- Only hooks after a phase show something. -/
theorem shown_runPhase_of_run {place : Nat} {plugins : List Plugin} {phase : Phase}
    {input output : Schema} (hbefore : ∀ plugin ∈ plugins, plugin.before phase.name input = .ok ())
    (hrun : phase.run input = .ok output) :
    shown place (runPhase plugins phase input).calls =
      shown place (afterHooks phase.name output 0 plugins).calls := by
  have hwork : (work phase input).result = .ok output := mapError_eq_ok_iff.2 hrun
  unfold runPhase
  rw [calls_bind, shown_append, shown_beforeHooks, List.nil_append,
    result_beforeHooks_iff.2 hbefore]
  dsimp only
  rw [calls_bind, shown_append, shown_work, List.nil_append, hwork]
  dsimp only
  rw [calls_bind, shown_append]
  cases (afterHooks phase.name output 0 plugins).result <;> exact List.append_nil _

theorem shown_runPhase_of_fails {place : Nat} {plugins : List Plugin} {phase : Phase}
    {input : Schema}
    (h : ¬ ((∀ plugin ∈ plugins, plugin.before phase.name input = .ok ()) ∧
      ∃ output, phase.run input = .ok output)) :
    shown place (runPhase plugins phase input).calls = [] := by
  unfold runPhase
  rw [calls_bind, shown_append, shown_beforeHooks, List.nil_append]
  cases hbefore : (beforeHooks phase.name input 0 plugins).result with
  | error e => rfl
  | ok value =>
    dsimp only
    rw [calls_bind, shown_append, shown_work, List.nil_append]
    cases hwork : (work phase input).result with
    | error e => rfl
    | ok output =>
      exact absurd ⟨result_beforeHooks_iff.1 hbefore, output, mapError_eq_ok_iff.1 hwork⟩ h

/-- Of one phase the observer is shown the output, if it passes with the hooks in front. -/
theorem shown_runPhase {place : Nat} {plugins : List Plugin} (hplace : place < plugins.length)
    (phase : Phase) (input : Schema) :
    (∃ output, Passes plugins place phase input output ∧
      shown place (runPhase plugins phase input).calls = [(phase.name, output)]) ∨
    (∀ output, ¬ Passes plugins place phase input output) ∧
      shown place (runPhase plugins phase input).calls = [] := by
  by_cases henters : (∀ plugin ∈ plugins, plugin.before phase.name input = .ok ()) ∧
      ∃ output, phase.run input = .ok output
  · obtain ⟨hbefore, output, hrun⟩ := henters
    have hhooks := @shown_afterHooks 0 place plugins hplace phase.name output
    rw [Nat.zero_add, ← shown_runPhase_of_run hbefore hrun] at hhooks
    obtain ⟨hafter, hshown⟩ | ⟨hafter, hshown⟩ := hhooks
    · exact .inl ⟨output, ⟨hbefore, hrun, hafter⟩, hshown⟩
    · refine .inr ⟨fun other hpasses => hafter ?_, hshown⟩
      obtain rfl : other = output := Except.ok.inj (hpasses.run.symm.trans hrun)
      exact hpasses.after
  · refine .inr ⟨fun output hpasses => henters ?_, shown_runPhase_of_fails henters⟩
    exact ⟨hpasses.before, output, hpasses.run⟩

theorem shown_runPhases_cons (place : Nat) (plugins : List Plugin) (phase : Phase)
    (rest : List Phase) (start : Schema) :
    shown place (runPhases plugins (phase :: rest) start).calls =
      shown place (runPhase plugins phase start).calls ++
        match (runPhase plugins phase start).result with
        | .ok output => shown place (runPhases plugins rest output).calls
        | .error _ => [] := by
  rw [runPhases, calls_bind, shown_append]
  cases (runPhase plugins phase start).result <;> rfl

/-- The observer is shown the phases that are reached and pass with the hooks in front of it, each
with its output. -/
theorem shown_runPhases {place : Nat} {plugins : List Plugin} (hplace : place < plugins.length)
    (phases : List Phase) (start : Schema) (k : Nat) (sight : String × Schema) :
    (shown place (runPhases plugins phases start).calls)[k]? = some sight ↔
      Shows plugins phases place start k sight := by
  induction phases generalizing start k with
  | nil =>
    refine iff_of_false (fun h => ?_) ?_
    · cases h
    · rintro ⟨⟨⟩⟩
  | cons phase rest ih =>
    -- Behind the first phase, the run goes on from its output if it passes with all hooks.
    have htail : ∀ k, (match (runPhase plugins phase start).result with
        | .ok output => shown place (runPhases plugins rest output).calls
        | .error _ => [])[k]? = some sight ↔
          Shows plugins (phase :: rest) place start (k + 1) sight := by
      intro k
      rw [shows_succ_iff]
      cases hresult : (runPhase plugins phase start).result with
      | error e =>
        refine iff_of_false (fun h => ?_) ?_
        · cases h
        · rintro ⟨output, hpasses, -⟩
          rw [runPhase_eq_ok_iff.2 hpasses] at hresult
          cases hresult
      | ok output =>
        have hpasses := runPhase_eq_ok_iff.1 hresult
        refine (ih output k).trans ⟨fun h => ⟨output, hpasses, h⟩, ?_⟩
        rintro ⟨other, hother, h⟩
        exact hother.output_unique hpasses ▸ h
    rw [shown_runPhases_cons]
    obtain ⟨output, hpasses, hshown⟩ | ⟨hnone, hshown⟩ := shown_runPhase hplace phase start
    · rw [hshown, List.singleton_append]
      cases k with
      | zero =>
        rw [List.getElem?_cons_zero, Option.some.injEq, shows_zero_iff]
        constructor
        · rintro rfl
          exact ⟨output, hpasses, rfl⟩
        · rintro ⟨other, hother, rfl⟩
          rw [hother.output_unique hpasses]
      | succ k => exact htail k
    · -- Nothing is shown of the first phase, so it does not pass and the run ends.
      have hends : ∀ k, ¬ Shows plugins (phase :: rest) place start k sight := by
        intro k hshows
        cases k with
        | zero =>
          obtain ⟨output, hpasses, -⟩ := shows_zero_iff.1 hshows
          exact hnone output hpasses
        | succ k =>
          obtain ⟨output, hpasses, -⟩ := shows_succ_iff.1 hshows
          exact hnone output (hpasses.mono place)
      rw [hshown, List.nil_append]
      exact iff_of_false (fun h => hends _ ((htail k).1 h)) (hends k)

/-- A run that succeeds shows every phase. -/
theorem map_fst_shown {place : Nat} {plugins : List Plugin} (hplace : place < plugins.length)
    {phases : List Phase} {start output : Schema}
    (h : (runPhases plugins phases start).result = .ok output) :
    (shown place (runPhases plugins phases start).calls).map Prod.fst = phases.map (·.name) := by
  induction phases generalizing start with
  | nil => rfl
  | cons phase rest ih =>
    simp only [runPhases, result_bind, bind_eq_ok_iff] at h
    obtain ⟨middle, hphase, hrest⟩ := h
    have hpasses := (runPhase_eq_ok_iff.1 hphase).mono place
    rw [shown_runPhases_cons, hphase, List.map_append, ih hrest]
    obtain ⟨other, -, hshown⟩ | ⟨hnone, -⟩ := shown_runPhase hplace phase start
    · rw [hshown]
      rfl
    · exact absurd hpasses (hnone middle)

/-! ## Numbers -/

/-- Snapshots of what was shown, with numbers that go up. -/
def numbered (first : Nat) (sights : List (String × Schema)) : List Snapshot :=
  (sights.zipIdx first).map fun (sight, index) => ⟨index, sight.1, schemaJson sight.2⟩

theorem recordAt_eq (place : Nat) (taken : List Snapshot) (calls : List Call) :
    recordAt (some place) taken calls =
      taken ++ numbered (taken.length + 1) (shown place calls) := by
  unfold recordAt
  change (shown place calls).foldl _ taken = _
  induction shown place calls generalizing taken with
  | nil => exact (List.append_nil taken).symm
  | cons sight rest ih =>
    obtain ⟨phase, output⟩ := sight
    rw [List.foldl_cons, ih]
    unfold record
    rw [List.append_assoc, List.length_append]
    rfl

/-- A run of a pipeline, with the place of the observer among its plugins. The observer takes its
snapshot before its own hook can fail. -/
structure Session where
  pipeline : Pipeline
  place : Nat
  input : Schema
  observed : place < pipeline.plugins.length

/-- The snapshots after one more run. -/
def afterSession (taken : List Snapshot) (session : Session) : List Snapshot :=
  recordAt (some session.place) taken (session.pipeline.run session.input).calls

/-- The snapshots that one observer takes of runs one after the other. -/
def takeAll (sessions : List Session) : List Snapshot := sessions.foldl afterSession []

theorem takeAll_append (sessions : List Session) (session : Session) :
    takeAll (sessions ++ [session]) = takeAll sessions ++
      numbered ((takeAll sessions).length + 1)
        (shown session.place (session.pipeline.run session.input).calls) := by
  unfold takeAll
  rw [List.foldl_append, List.foldl_cons, List.foldl_nil, afterSession, recordAt_eq]

theorem map_index_numbered (first : Nat) (sights : List (String × Schema)) :
    (numbered first sights).map (·.index) = List.range' first sights.length := by
  unfold numbered
  rw [List.map_map]
  exact List.zipIdx_map_snd first sights

theorem map_index_takeAll (sessions : List Session) :
    (takeAll sessions).map (·.index) = List.range' 1 (takeAll sessions).length := by
  induction sessions using List.reverseRecOn with
  | nil => rfl
  | append_singleton sessions session ih =>
    have hlength : ∀ sights, (numbered ((takeAll sessions).length + 1) sights).length =
        sights.length := fun sights => by simp [numbered]
    rw [takeAll_append, List.map_append, ih, map_index_numbered, List.length_append, hlength,
      Nat.add_comm (takeAll sessions).length 1, List.range'_append_1]

theorem index_of_takeAll {sessions : List Session} {k : Nat} {s : Snapshot}
    (h : (takeAll sessions)[k]? = some s) : s.index = k + 1 := by
  have hindex := congrArg (·[k]?) (map_index_takeAll sessions)
  have hlt := (List.getElem?_eq_some_iff.1 h).1
  simp only [List.getElem?_map, h, Option.map_some, List.getElem?_range' hlt,
    Option.some.injEq] at hindex
  omega

/-! ## File names -/

theorem toList_twoDigits (n : Nat) :
    (twoDigits n).toList = (if n < 10 then ['0'] else []) ++ Nat.toDigits 10 n := by
  unfold twoDigits
  split_ifs
  · rw [String.toList_append]
    exact congrArg _ Nat.toList_repr
  · exact Nat.toList_repr

/-- The digits tell the number, whether or not a zero is in front. -/
theorem ofDigitChars_twoDigits (n : Nat) : Nat.ofDigitChars 10 (twoDigits n).toList 0 = n := by
  rw [toList_twoDigits]
  split_ifs
  · exact Nat.ofDigitChars_ten_toDigits
  · exact Nat.ofDigitChars_ten_toDigits

theorem isDigit_twoDigits {n : Nat} : ∀ c ∈ (twoDigits n).toList, c.isDigit := by
  rw [toList_twoDigits, List.forall_mem_append]
  refine ⟨?_, fun c => Nat.isDigit_of_mem_toDigits (by decide) (by decide)⟩
  split_ifs
  · exact List.forall_mem_singleton.2 rfl
  · exact List.forall_mem_nil _

theorem toList_fileName (s : Snapshot) :
    s.fileName.toList =
      (twoDigits s.index).toList ++ '-' :: (s.phase.toList ++ ".json".toList) := by
  unfold fileName
  simp only [String.toList_append, List.append_assoc]
  rfl

theorem takeWhile_fileName (s : Snapshot) :
    s.fileName.toList.takeWhile (· != '-') = (twoDigits s.index).toList := by
  have hall : ∀ c ∈ (twoDigits s.index).toList, (c != '-') = true := by
    intro c hc
    have hdigit := isDigit_twoDigits c hc
    rw [bne_iff_ne]
    rintro rfl
    revert hdigit
    decide
  rw [toList_fileName, List.takeWhile_append_of_pos hall, List.takeWhile_cons_of_neg (by decide),
    List.append_nil]

/-- The digits in front of the first hyphen tell the number. -/
theorem index_of_fileName {s t : Snapshot} (h : s.fileName = t.fileName) : s.index = t.index := by
  have hdigits : (twoDigits s.index).toList = (twoDigits t.index).toList := by
    rw [← takeWhile_fileName, h, takeWhile_fileName]
  calc s.index
    _ = Nat.ofDigitChars 10 (twoDigits s.index).toList 0 := (ofDigitChars_twoDigits _).symm
    _ = Nat.ofDigitChars 10 (twoDigits t.index).toList 0 := by rw [hdigits]
    _ = t.index := ofDigitChars_twoDigits _

example : [9, 10, 100].map twoDigits = ["09", "10", "100"] := by decide

theorem nodup_fileName (sessions : List Session) : ((takeAll sessions).map fileName).Nodup := by
  have hindex : ((takeAll sessions).map (·.index)).Nodup := by
    rw [map_index_takeAll]
    exact List.nodup_range'
  unfold List.Nodup at hindex ⊢
  rw [List.pairwise_map] at hindex ⊢
  exact hindex.imp fun hne heq => hne (index_of_fileName heq)

theorem plain_fileName {s : Snapshot} (h : '/' ∉ s.phase.toList) : Files.Plain s.fileName := by
  have hne : ∀ name : String, '-' ∉ name.toList → s.fileName ≠ name := by
    rintro _ hnone rfl
    rw [toList_fileName] at hnone
    exact hnone (List.mem_append_right _ List.mem_cons_self)
  refine ⟨hne "" (by decide), ⟨hne "." (by decide), hne ".." (by decide)⟩, ?_⟩
  rw [toList_fileName, List.mem_append, List.mem_cons, List.mem_append, not_or, not_or, not_or]
  refine ⟨fun hmem => ?_, by decide, h, by decide⟩
  have hdigit := isDigit_twoDigits _ hmem
  revert hdigit
  decide

/-! ## Files of snapshots -/

def files (taken : List Snapshot) : List (String × String) :=
  taken.map fun s => (s.fileName, s.text)

theorem wrote_of_forM {directory : Files.Path} {taken : List Snapshot}
    {before after : Files.FileTree}
    (h : (taken.forM fun s => Files.FileOp.write (directory.join ⟨s.fileName⟩) s.text).run before =
      (.ok (), after)) : Files.Wrote directory before (files taken) after := by
  induction taken generalizing before with
  | nil =>
    cases h
    exact .done (.refl _)
  | cons s rest ih =>
    obtain ⟨⟨⟩, middle, hwrite, hrest⟩ := Files.FileOp.bind_eq_ok_iff.1 h
    exact .file (.refl _) hwrite (ih hrest)

theorem grows_of_makeDirectories {directory : Files.Path} {before after : Files.FileTree}
    (h : (Files.FileSystem.memory.makeDirectories directory).run before = (.ok (), after)) :
    Files.Grows before after := by
  have hgrows := Files.FileOp.adds_makeDirectories directory before
  change (Files.FileOp.makeDirectories directory).run before = _ at h
  rw [h] at hgrows
  exact hgrows

theorem wrote_of_writeAll {directory : Files.Path} {taken : List Snapshot}
    {before after : Files.FileTree}
    (h : (writeAll .memory directory taken).run before = (.ok (), after)) :
    Files.Wrote directory before (files taken) after := by
  obtain ⟨⟨⟩, middle, hmake, hwrites⟩ := Files.FileOp.bind_eq_ok_iff.1 h
  exact (wrote_of_forM hwrites).of_grows (grows_of_makeDirectories hmake)

theorem wrote_of_writeSnapshots {directory : Files.Path} {taken : List Snapshot}
    {before after : Files.FileTree}
    (h : (Command.writeSnapshots .memory directory taken).run before = (.ok (), after)) :
    Files.Wrote directory before (files taken) after := by
  induction taken generalizing before with
  | nil =>
    cases h
    exact .done (.refl _)
  | cons s rest ih =>
    obtain ⟨⟨⟩, middle, hfirst, hrest⟩ := Files.FileOp.bind_eq_ok_iff.1 h
    obtain ⟨⟨⟩, made, hmake, hwrite⟩ :=
      Files.FileOp.bind_eq_ok_iff.1 (Files.FileOp.adapt_eq_ok_iff.1 hfirst)
    exact .file (grows_of_makeDirectories hmake) hwrite (ih hrest)

/-- Snapshots of different file names, once written, can all be read. -/
theorem holds_of_wrote {directory : Files.Path} {taken : List Snapshot}
    {before after : Files.FileTree} (h : Files.Wrote directory before (files taken) after)
    (hnodup : (taken.map fileName).Nodup) (hphases : ∀ s ∈ taken, '/' ∉ s.phase.toList) :
    ∀ s ∈ taken, Files.Holds after (directory.join ⟨s.fileName⟩) s.text := by
  have hplain : ∀ file ∈ files taken, Files.Plain file.1 :=
    List.forall_mem_map.2 fun s hs => plain_fileName (hphases s hs)
  have hnames : ((files taken).map Prod.fst).Nodup := by
    unfold files
    rw [List.map_map]
    exact hnodup
  exact List.forall_mem_map.1 (h.holds hplain hnames)

/-- Paths of snapshots never lead to one file, whatever is in the directory. -/
theorem pairwise_apart {taken : List Snapshot} (directory : Files.Path)
    (hnodup : (taken.map fileName).Nodup) (hphases : ∀ s ∈ taken, '/' ∉ s.phase.toList) :
    taken.Pairwise fun s t =>
      Files.Apart (directory.join ⟨s.fileName⟩) (directory.join ⟨t.fileName⟩) := by
  unfold List.Nodup at hnodup
  rw [List.pairwise_map] at hnodup
  exact hnodup.imp_of_mem fun hs ht hne =>
    Files.apart_join directory (plain_fileName (hphases _ hs)) (plain_fileName (hphases _ ht)) hne

/-- The snapshots of all runs are numbered without gaps. One run adds those of the phases that the
observer is shown, which are all if it succeeds. No two have one file name or, in a directory, one
file, so that all that were written can be read. -/
theorem takeAll_numbers_phases (sessions : List Session) :
    (∀ k s, (takeAll sessions)[k]? = some s → s.index = k + 1) ∧
    (∀ session : Session, ∃ sights : List (String × Schema),
      takeAll (sessions ++ [session]) =
        takeAll sessions ++ numbered ((takeAll sessions).length + 1) sights ∧
      (∀ k sight, sights[k]? = some sight ↔
        Shows session.pipeline.plugins session.pipeline.phases session.place session.input k
          sight) ∧
      ∀ output, session.pipeline.compile session.input = .ok output →
        sights.map Prod.fst = session.pipeline.names) ∧
    ((takeAll sessions).map fileName).Nodup ∧
    ((∀ s ∈ takeAll sessions, '/' ∉ s.phase.toList) → ∀ directory : Files.Path,
      ((takeAll sessions).Pairwise fun s t =>
        Files.Apart (directory.join ⟨s.fileName⟩) (directory.join ⟨t.fileName⟩)) ∧
      ∀ before after : Files.FileTree,
        (writeAll .memory directory (takeAll sessions)).run before = (.ok (), after) ∨
          (Command.writeSnapshots .memory directory (takeAll sessions)).run before =
            (.ok (), after) →
          ∀ s ∈ takeAll sessions, Files.Holds after (directory.join ⟨s.fileName⟩) s.text) := by
  have hnodup := nodup_fileName sessions
  refine ⟨fun _ _ => index_of_takeAll, fun session => ⟨_, takeAll_append sessions session, ?_, ?_⟩,
    hnodup, fun hphases directory => ⟨pairwise_apart directory hnodup hphases, ?_⟩⟩
  · exact shown_runPhases session.observed session.pipeline.phases session.input
  · exact fun output hcompile => map_fst_shown session.observed hcompile
  · intro before after hwritten
    exact holds_of_wrote (hwritten.elim wrote_of_writeAll wrote_of_writeSnapshots) hnodup hphases

/-- A run that is observed in front of a critic, who may stop it after its first phase. -/
def rehearsal (stops : Bool) : Session where
  pipeline :=
    { phases := [.conformance, .defaults]
      plugins := [plugin,
        { name := "critic"
          after := fun phase _ =>
            if stops ∧ phase = "conformance" then .error "enough" else .ok () }] }
  place := 0
  input := .initial
  observed := Nat.zero_lt_two

theorem takeAll_numbers_phases_rehearsed :
    ∃ after : Files.FileTree,
      (takeAll [rehearsal true, rehearsal false]).map fileName =
        ["01-conformance.json", "02-conformance.json", "03-defaults.json"] ∧
      (∀ s ∈ takeAll [rehearsal true, rehearsal false], '/' ∉ s.phase.toList) ∧
      (writeAll .memory ⟨"out"⟩ (takeAll [rehearsal true, rehearsal false])).run {} =
        (.ok (), after) ∧
      ∀ s ∈ takeAll [rehearsal true, rehearsal false],
        Files.Holds after (Files.Path.join ⟨"out"⟩ ⟨s.fileName⟩) s.text := by
  have hphases : ∀ s ∈ takeAll [rehearsal true, rehearsal false], '/' ∉ s.phase.toList := by
    decide +kernel
  have hok : ((writeAll .memory ⟨"out"⟩ (takeAll [rehearsal true, rehearsal false])).run
      {}).1.isOk := by decide +kernel
  obtain ⟨after, hwritten⟩ := Files.FileOp.exists_of_isOk hok
  obtain ⟨-, -, -, hholds⟩ := takeAll_numbers_phases [rehearsal true, rehearsal false]
  refine ⟨after, by decide +kernel, hphases, hwritten, ?_⟩
  exact (hholds hphases ⟨"out"⟩).2 {} after (.inl hwritten)

end GraphSchema.Snapshot
