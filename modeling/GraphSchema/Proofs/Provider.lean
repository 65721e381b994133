import GraphSchema.Provider
import GraphSchema.Results

/-!
# Cached providers

Providers that share a store, asked one call at a time. For each identity, the calls up to the
first that succeeds load and compile like calls without a cache, and all later ones get what that
one got.
-/

namespace GraphSchema

variable {σ : Type}

/-! ## Loading and compiling once -/

/-- What a compiler makes of one load, and the world after it. -/
def Compiler.attempt (compiler : Compiler σ) (identity : String) (world : σ) :
    Except ProviderError Schema × σ :=
  match compiler.load identity world with
  | (.error error, world) => (.error error, world)
  | (.ok schema, world) =>
    let run := (compiler.pipeline world).run schema
    (run.result.mapError .compile, compiler.afterRun run world)

/-- Something that a compiler was asked to do. -/
inductive Task where
  | load (provider : Nat) (identity : String)
  | run (provider : Nat)
  deriving DecidableEq, Repr

/-- The compiler of a provider, keeping a list of all that was asked. -/
def Compiler.logged (compiler : Compiler σ) (provider : Nat) : Compiler (σ × List Task) where
  load identity world :=
    let (result, next) := compiler.load identity world.1
    (result, next, world.2 ++ [.load provider identity])
  pipeline world := compiler.pipeline world.1
  afterRun run world := (compiler.afterRun run world.1, world.2 ++ [.run provider])

namespace Service

/-! ## Calls -/

/-- A call for the schema of an identity, to one of the providers. -/
structure Request where
  provider : Nat
  identity : String
  deriving DecidableEq, Repr

abbrev Answer := Except ProviderError Handle

/-- What a store in memory contains. -/
abbrev Handles := OrderedMap String Handle

/-- All stores are empty, and no provider has a cell. -/
def start (world : σ) : Service σ Handles := { world, contents := fun _ => .empty }

section Calls

variable (compilers : Nat → Compiler σ)

/-- A provider in front of the shared store. -/
def cached (provider : Nat) : Provider σ Handles :=
  ⟨provider, compilers provider, some (.memory 0)⟩

/-- The same provider without the store. -/
def direct (provider : Nat) : Provider σ Handles := ⟨provider, compilers provider, none⟩

def answer (service : Service σ Handles) (request : Request) : Step σ Handles Handle :=
  service.get (cached compilers request.provider) request.identity

/-- The service after the calls. -/
def serve (service : Service σ Handles) (requests : List Request) : Service σ Handles :=
  requests.foldl (fun service request => (service.answer compilers request).2) service

/-- The calls with their answers. -/
def history (service : Service σ Handles) : List Request → List (Request × Answer)
  | [] => []
  | request :: rest =>
    let (given, next) := service.answer compilers request
    (request, given) :: history next rest

end Calls

/-- What a call with its answer handed out for an identity. -/
def success? (identity : String) (entry : Request × Answer) : Option Handle :=
  if entry.1.identity = identity then entry.2.toOption else none

/-- What the first successful call for an identity handed out. -/
def handed? (given : List (Request × Answer)) (identity : String) : Option Handle :=
  given.findSome? (success? identity)

theorem handed?_cons (entry : Request × Answer) (given : List (Request × Answer))
    (identity : String) : handed? (entry :: given) identity =
      (success? identity entry).or (handed? given identity) := by
  unfold handed?
  rw [List.findSome?_cons]
  cases success? identity entry <;> rfl

/-! ## Parts of a call -/

section Parts

variable {τ : Type}

theorem setContents_self (service : Service σ τ) (number : Nat) :
    service.setContents number (service.contents number) = service := by
  have hcontents : (fun n => if n = number then service.contents number else service.contents n) =
      service.contents := by
    funext n
    split
    · rename_i hn
      rw [hn]
    · rfl
  unfold setContents
  rw [hcontents]

theorem compile_eq (service : Service σ τ) (compiler : Compiler σ) (identity : String) :
    service.compile compiler identity =
      match compiler.attempt identity service.world with
      | (.error error, world) => (.error error, { service with world })
      | (.ok schema, world) =>
        (.ok ⟨service.made, schema⟩, { service with world, made := service.made + 1 }) := by
  unfold compile Compiler.attempt
  rcases compiler.load identity service.world with ⟨error | schema, world⟩
  · rfl
  · dsimp only
    cases ((compiler.pipeline world).run schema).result <;> rfl

theorem contents_compile (service : Service σ τ) (compiler : Compiler σ) (identity : String) :
    (service.compile compiler identity).2.contents = service.contents := by
  rw [compile_eq]
  rcases compiler.attempt identity service.world with ⟨error | schema, world⟩ <;> rfl

theorem cells_compile (service : Service σ τ) (compiler : Compiler σ) (identity : String) :
    (service.compile compiler identity).2.cells = service.cells := by
  rw [compile_eq]
  rcases compiler.attempt identity service.world with ⟨error | schema, world⟩ <;> rfl

theorem get?_fill (service : Service σ τ) (provider other : Nat) (identity name : String)
    (result : Except ProviderError Handle) :
    ((service.fill provider identity result).cells other).get? name =
      if other = provider ∧ name = identity then some result
      else (service.cells other).get? name := by
  unfold fill changeCells
  dsimp only
  by_cases hother : other = provider
  · rw [if_pos hother]
    by_cases hname : name = identity
    · rw [hname, OrderedMap.get?_insert_self, if_pos ⟨hother, rfl⟩]
    · rw [OrderedMap.get?_insert_of_ne _ hname, if_neg fun h => hname h.2]
  · rw [if_neg hother, if_neg fun h => hother h.1]

theorem get?_evict (service : Service σ τ) (provider other : Nat) (identity name : String) :
    ((service.evict provider identity).cells other).get? name =
      if other = provider ∧ name = identity then none else (service.cells other).get? name := by
  unfold evict changeCells
  dsimp only
  by_cases hother : other = provider
  · rw [if_pos hother, OrderedMap.get?_erase]
    simp only [hother, true_and]
  · rw [if_neg hother, if_neg fun h => hother h.1]

end Parts

/-! ## What is stored and kept in cells -/

/-- The store holds what was handed out, and cells hold nothing else. -/
structure Tied (service : Service σ Handles) (handed : String → Option Handle) : Prop where
  stored : ∀ identity, (service.contents 0).get? identity = handed identity
  cells : ∀ provider identity result, (service.cells provider).get? identity = some result →
    ∃ handle, result = .ok handle ∧ handed identity = some handle

theorem tied_start (world : σ) : Tied (start world) fun _ => none where
  stored _ := rfl
  cells _ _ _ h := nomatch h

/-- Writes to the shared store. -/
def stored (service : Service σ Handles) (identity : String) (handle : Handle) :
    Service σ Handles :=
  service.setContents 0 ((service.contents 0).insert identity handle)

theorem keep_eq (service : Service σ Handles) (identity : String) (handle : Handle) :
    service.keep (.memory 0) identity handle = (.ok (), service.stored identity handle) := rfl

namespace Tied

variable {service : Service σ Handles} {handed : String → Option Handle} (h : Tied service handed)
include h

theorem fetch_eq (identity : String) :
    service.fetch (.memory 0) identity = (.ok (handed identity), service) := by
  have hget : service.fetch (.memory 0) identity =
      (.ok ((service.contents 0).get? identity), service.setContents 0 (service.contents 0)) := rfl
  rw [hget, h.stored, setContents_self]

theorem compile (compiler : Compiler σ) (identity : String) :
    Tied (service.compile compiler identity).2 handed where
  stored := by
    rw [contents_compile]
    exact h.stored
  cells := by
    rw [cells_compile]
    exact h.cells

/-- A cell may hold what was handed out before. -/
theorem fill {identity : String} {handle : Handle} (hhanded : handed identity = some handle)
    (provider : Nat) : Tied (service.fill provider identity (.ok handle)) handed where
  stored := h.stored
  cells := by
    intro other name result hfound
    rw [get?_fill] at hfound
    split at hfound
    · rename_i hsame
      exact ⟨handle, (Option.some.inj hfound).symm, hsame.2 ▸ hhanded⟩
    · exact h.cells other name result hfound

/-- A failure is gone from its cell before anyone looks. -/
theorem evict_fill (provider : Nat) (identity : String) (error : ProviderError) :
    Tied ((service.fill provider identity (.error error)).evict provider identity) handed where
  stored := h.stored
  cells := by
    intro other name result hfound
    rw [get?_evict] at hfound
    split at hfound
    · cases hfound
    · rename_i hother
      rw [get?_fill, if_neg hother] at hfound
      exact h.cells other name result hfound

/-- The first handle of an identity is stored. -/
theorem store {identity : String} (hnone : handed identity = none) (handle : Handle) :
    Tied (service.stored identity handle)
      fun other => (handed other).or (if identity = other then some handle else none) where
  stored := by
    intro other
    change ((service.contents 0).insert identity handle).get? other = _
    by_cases hother : identity = other
    · subst hother
      rw [OrderedMap.get?_insert_self, hnone, if_pos rfl, Option.none_or]
    · rw [OrderedMap.get?_insert_of_ne _ (Ne.symm hother), h.stored, if_neg hother,
        Option.or_none]
  cells := by
    intro provider other result hfound
    obtain ⟨found, hresult, hhanded⟩ := h.cells provider other result hfound
    exact ⟨found, hresult, by rw [hhanded, Option.some_or]⟩

/-! ## One call -/

variable (compilers : Nat → Compiler σ)

/-- What was handed out once is handed out again, from the provider's cell or the store. -/
theorem answer_again {request : Request} {handle : Handle}
    (hhanded : handed request.identity = some handle) :
    (service.answer compilers request).1 = .ok handle ∧
      (service.answer compilers request).2.world = service.world ∧
      Tied (service.answer compilers request).2 handed := by
  unfold answer get cached look
  dsimp only
  cases hcell : (service.cells request.provider).get? request.identity with
  | some result =>
    obtain ⟨found, rfl, hfound⟩ := h.cells _ _ _ hcell
    rw [hhanded] at hfound
    obtain rfl := Option.some.inj hfound
    exact ⟨rfl, rfl, h⟩
  | none =>
    unfold obtain
    rw [h.fetch_eq, hhanded]
    exact ⟨rfl, rfl, h.fill hhanded request.provider⟩

/-- What was not handed out is loaded and compiled. Only a success leaves a trace. -/
theorem answer_new {request : Request} (hnone : handed request.identity = none) :
    let compiled := service.compile (compilers request.provider) request.identity
    (service.answer compilers request).1 = compiled.1 ∧
      (service.answer compilers request).2.world = compiled.2.world ∧
      Tied (service.answer compilers request).2
        fun other => (handed other).or (success? other (request, compiled.1)) := by
  intro compiled
  have hempty : (service.cells request.provider).get? request.identity = none := by
    rw [Option.eq_none_iff_forall_ne_some]
    intro result hresult
    obtain ⟨handle, -, hhanded⟩ := h.cells _ _ _ hresult
    rw [hnone] at hhanded
    cases hhanded
  have htied : Tied compiled.2 handed := h.compile _ _
  have hsplit : service.compile (compilers request.provider) request.identity =
      (compiled.1, compiled.2) := rfl
  unfold answer get cached look
  dsimp only
  rw [hempty]
  unfold obtain
  rw [h.fetch_eq, hnone]
  dsimp only
  rw [hsplit]
  generalize compiled.1 = result at hsplit
  cases result with
  | error error =>
    refine ⟨rfl, rfl, ?_⟩
    simpa [success?, Except.toOption] using htied.evict_fill request.provider request.identity error
  | ok handle =>
    dsimp only
    rw [keep_eq]
    refine ⟨rfl, rfl, ?_⟩
    apply (htied.store hnone handle).fill
    rw [hnone, if_pos rfl, Option.none_or]

/-- Whatever a call answers, the store goes on holding the first handles. -/
theorem answer (request : Request) :
    Tied (service.answer compilers request).2 fun other =>
      (handed other).or (success? other (request, (service.answer compilers request).1)) := by
  cases hhanded : handed request.identity with
  | none =>
    obtain ⟨hanswer, -, htied⟩ := h.answer_new compilers hhanded
    rw [hanswer]
    exact htied
  | some handle =>
    obtain ⟨hanswer, -, htied⟩ := h.answer_again compilers hhanded
    have hsame : (fun other =>
        (handed other).or (success? other (request, (service.answer compilers request).1))) =
        handed := by
      funext other
      rw [hanswer]
      by_cases hother : request.identity = other
      · rw [← hother, hhanded, Option.some_or]
      · unfold success?
        rw [if_neg hother, Option.or_none]
    rw [hsame]
    exact htied

/-- The invariant of a whole run of calls. -/
theorem serve (requests : List Request) :
    Tied (service.serve compilers requests) fun identity =>
      (handed identity).or (handed? (service.history compilers requests) identity) := by
  induction requests generalizing service handed with
  | nil => simpa [Service.serve, history, handed?] using h
  | cons request rest ih =>
    have hrest := ih (h.answer compilers request)
    simp only [Option.or_assoc, ← handed?_cons] at hrest
    exact hrest

end Tied

theorem tied_serve (compilers : Nat → Compiler σ) (world : σ) (requests : List Request) :
    Tied ((start world).serve compilers requests)
      (handed? ((start world).history compilers requests)) := by
  have htied := (tied_start world).serve compilers requests
  simpa only [Option.none_or] using htied

/-! ## What is asked of compilers -/

/-- One load, and one run if the source has a schema. -/
theorem tasks_compile {τ : Type} (service : Service (σ × List Task) τ) (compiler : Compiler σ)
    (provider : Nat) (identity : String) :
    (service.compile (compiler.logged provider) identity).2.world.2 =
      service.world.2 ++ Task.load provider identity ::
        if (compiler.load identity service.world.1).1.isOk then [.run provider] else [] := by
  have hattempt : ((compiler.logged provider).attempt identity service.world).2.2 =
      service.world.2 ++ Task.load provider identity ::
        if (compiler.load identity service.world.1).1.isOk then [.run provider] else [] := by
    cases hload : compiler.load identity service.world.1 with
    | mk result next =>
      cases result with
      | error message =>
        simp only [Compiler.attempt, Compiler.logged, hload]
        rfl
      | ok schema =>
        simp only [Compiler.attempt, Compiler.logged, hload, List.append_assoc,
          List.singleton_append]
        rfl
  rw [← hattempt, compile_eq]
  rcases (compiler.logged provider).attempt identity service.world with ⟨error | schema, world⟩ <;>
    rfl

/-! ## Other identities -/

/-- The compiler treats every identity by itself: what it makes of one depends on a part of the
world that belongs to it, and no other part changes. -/
structure Separates {τ : Type} (compiler : Compiler σ) (part : String → σ → τ) : Prop where
  reads : ∀ identity world other, part identity world = part identity other →
    (compiler.attempt identity world).1 = (compiler.attempt identity other).1 ∧
      part identity (compiler.attempt identity world).2 =
        part identity (compiler.attempt identity other).2
  writes : ∀ identity world other, other ≠ identity →
    part other (compiler.attempt identity world).2 = part other world

/-- What calls for an identity were answered, without the numbers of handles. -/
def outcomes (given : List (Request × Answer)) (identity : String) :
    List (Except ProviderError Schema) :=
  (given.filter (·.1.identity = identity)).map fun entry => entry.2.map Handle.schema

theorem map_handed? (given : List (Request × Answer)) (identity : String) :
    (handed? given identity).map Handle.schema =
      (outcomes given identity).findSome? Except.toOption := by
  induction given with
  | nil => rfl
  | cons entry rest ih =>
    rw [handed?_cons, Option.map_or, ih]
    unfold success? outcomes
    by_cases hidentity : entry.1.identity = identity
    · rw [if_pos hidentity, List.filter_cons_of_pos (by simpa using hidentity), List.map_cons,
        List.findSome?_cons]
      cases entry.2 <;> rfl
    · rw [if_neg hidentity, List.filter_cons_of_neg (by simpa using hidentity), Option.map_none,
        Option.none_or]

theorem serve_concat (compilers : Nat → Compiler σ) (service : Service σ Handles)
    (requests : List Request) (request : Request) :
    service.serve compilers (requests ++ [request]) =
      ((service.serve compilers requests).answer compilers request).2 := by
  unfold serve
  rw [List.foldl_append]
  rfl

theorem history_concat (compilers : Nat → Compiler σ) (service : Service σ Handles)
    (requests : List Request) (request : Request) :
    service.history compilers (requests ++ [request]) =
      service.history compilers requests ++
        [(request, ((service.serve compilers requests).answer compilers request).1)] := by
  induction requests generalizing service with
  | nil => rfl
  | cons first rest ih => exact congrArg _ (ih _)

theorem outcomes_concat (given : List (Request × Answer)) (entry : Request × Answer)
    (identity : String) :
    outcomes (given ++ [entry]) identity =
      if entry.1.identity = identity then outcomes given identity ++ [entry.2.map Handle.schema]
      else outcomes given identity := by
  unfold outcomes
  rw [List.filter_append, List.map_append]
  split
  · rename_i hidentity
    rw [List.filter_cons_of_pos (by simpa using hidentity)]
    rfl
  · rename_i hidentity
    rw [List.filter_cons_of_neg (by simpa using hidentity), List.filter_nil, List.map_nil,
      List.append_nil]

theorem map_compile {τ : Type} (service : Service σ τ) (compiler : Compiler σ) (identity : String) :
    (service.compile compiler identity).1.map Handle.schema =
        (compiler.attempt identity service.world).1 ∧
      (service.compile compiler identity).2.world =
        (compiler.attempt identity service.world).2 := by
  rw [compile_eq]
  rcases compiler.attempt identity service.world with ⟨error | schema, world⟩ <;> exact ⟨rfl, rfl⟩

section Separates

variable {τ : Type} {compilers : Nat → Compiler σ} {part : String → σ → τ}
  (hseparates : ∀ provider, Separates (compilers provider) part)
include hseparates

/-- A call for one identity leaves the parts of all others alone. -/
theorem part_answer {service : Service σ Handles} {handed : String → Option Handle}
    (h : Tied service handed) (request : Request) {identity : String}
    (hidentity : identity ≠ request.identity) :
    part identity (service.answer compilers request).2.world = part identity service.world := by
  cases hhanded : handed request.identity with
  | some handle => rw [(h.answer_again compilers hhanded).2.1]
  | none =>
    rw [(h.answer_new compilers hhanded).2.1, (map_compile _ _ _).2]
    exact (hseparates _).writes _ _ _ hidentity

/-- Two services that agree on an identity answer a call for it alike and go on agreeing. -/
theorem answer_agrees {service other : Service σ Handles} {handed handed' : String → Option Handle}
    (h : Tied service handed) (h' : Tied other handed') {request : Request}
    (hsame : (handed request.identity).map Handle.schema =
      (handed' request.identity).map Handle.schema)
    (hpart : part request.identity service.world = part request.identity other.world) :
    (service.answer compilers request).1.map Handle.schema =
        (other.answer compilers request).1.map Handle.schema ∧
      part request.identity (service.answer compilers request).2.world =
        part request.identity (other.answer compilers request).2.world := by
  cases hhanded : handed request.identity with
  | some handle =>
    rw [hhanded, Option.map_some, eq_comm, Option.map_eq_some_iff] at hsame
    obtain ⟨handle', hhanded', hschema⟩ := hsame
    obtain ⟨hanswer, hworld, -⟩ := h.answer_again compilers hhanded
    obtain ⟨hanswer', hworld', -⟩ := h'.answer_again compilers hhanded'
    rw [hanswer, hanswer', hworld, hworld']
    exact ⟨congrArg Except.ok hschema.symm, hpart⟩
  | none =>
    rw [hhanded, Option.map_none, eq_comm, Option.map_eq_none_iff] at hsame
    obtain ⟨hanswer, hworld, -⟩ := h.answer_new compilers hhanded
    obtain ⟨hanswer', hworld', -⟩ := h'.answer_new compilers hsame
    rw [hanswer, hanswer', hworld, hworld', (map_compile _ _ _).1, (map_compile _ _ _).1,
      (map_compile _ _ _).2, (map_compile _ _ _).2]
    exact (hseparates request.provider).reads _ _ _ hpart

theorem history_separates (world : σ) (requests : List Request) (identity : String) :
    let others := requests.filter (·.identity = identity)
    outcomes ((start world).history compilers requests) identity =
        outcomes ((start world).history compilers others) identity ∧
      part identity ((start world).serve compilers requests).world =
        part identity ((start world).serve compilers others).world := by
  induction requests using List.reverseRecOn with
  | nil => exact ⟨rfl, rfl⟩
  | append_singleton requests request ih =>
    obtain ⟨houtcomes, hpart⟩ := ih
    -- The last call is for the identity, and then both runs answer it, or for another one.
    dsimp only
    have htied := tied_serve compilers world requests
    have htied' := tied_serve compilers world (requests.filter (·.identity = identity))
    rw [List.filter_append, history_concat, serve_concat, outcomes_concat]
    by_cases hidentity : request.identity = identity
    · subst hidentity
      have hsame := congrArg (List.findSome? Except.toOption) houtcomes
      rw [← map_handed?, ← map_handed?] at hsame
      obtain ⟨hanswer, hworld⟩ := answer_agrees hseparates htied htied' hsame hpart
      rw [if_pos rfl, List.filter_cons_of_pos (by simp), List.filter_nil, history_concat,
        serve_concat, outcomes_concat, if_pos rfl, houtcomes, hanswer]
      exact ⟨rfl, hworld⟩
    · rw [if_neg hidentity, List.filter_cons_of_neg (by simpa using hidentity), List.filter_nil,
        List.append_nil, part_answer hseparates htied request (Ne.symm hidentity)]
      exact ⟨houtcomes, hpart⟩

end Separates

/-! ## Caching -/

/-- Until an identity is handed out, a call for it answers like the provider without its store and
asks for one load. From then on every provider hands out the same, and nothing is asked of any
compiler. Where compilers keep identities apart, so do the calls: what they answer for one is what
they would answer without the calls for others. -/
theorem caching_transparent (compilers : Nat → Compiler σ) (world : σ) :
    (∀ earlier request,
      let logged provider := (compilers provider).logged provider
      let now := (start (world, [])).serve logged earlier
      let after := now.answer logged request
      let uncached := now.get (direct logged request.provider) request.identity
      match handed? ((start (world, [])).history logged earlier) request.identity with
      | some handle => after.1 = .ok handle ∧ after.2.world = now.world
      | none =>
        after.1 = uncached.1 ∧ after.2.world = uncached.2.world ∧
          after.2.world.2 = now.world.2 ++ Task.load request.provider request.identity ::
            if ((compilers request.provider).load request.identity now.world.1).1.isOk then
              [.run request.provider]
            else []) ∧
    ∀ {τ : Type} (part : String → σ → τ), (∀ provider, Separates (compilers provider) part) →
      ∀ requests identity, outcomes ((start world).history compilers requests) identity =
        outcomes ((start world).history compilers
          (requests.filter (·.identity = identity))) identity := by
  refine ⟨?_, ?_⟩
  · intro earlier request logged now after uncached
    have htied := tied_serve logged (world, []) earlier
    split
    · rename_i handle hhanded
      obtain ⟨hanswer, hworld, -⟩ := htied.answer_again logged hhanded
      exact ⟨hanswer, hworld⟩
    · rename_i hnone
      obtain ⟨hanswer, hworld, -⟩ := htied.answer_new logged hnone
      refine ⟨hanswer, hworld, ?_⟩
      rw [hworld]
      exact tasks_compile now (compilers request.provider) request.provider request.identity
  · intro τ part hseparates requests identity
    exact (history_separates hseparates world requests identity).1

/-- Every identity is found on its second load only. The first provider asks twice for `a`; the
second one then has it from the store, and what it asks for `b` changes nothing. -/
theorem caching_transparent_retried :
    let compilers : Nat → Compiler (String → Nat) := fun _ =>
      { load := fun identity loads =>
          (if loads identity = 0 then .error (.source identity "not found") else .ok .initial,
            Function.update loads identity (loads identity + 1))
        pipeline := fun _ => {} }
    let part : String → (String → Nat) → Nat := fun identity loads => loads identity
    let logged provider := (compilers provider).logged provider
    let requests : List Request := [⟨0, "a"⟩, ⟨1, "b"⟩, ⟨0, "a"⟩, ⟨1, "a"⟩]
    (∀ provider, Separates (compilers provider) part) ∧
      ((start (fun _ => 0, [])).serve logged requests).world.2 =
        [.load 0 "a", .load 1 "b", .load 0 "a", .run 0] ∧
      outcomes ((start fun _ => 0).history compilers requests) "a" =
        [.error (.source "a" "not found"), .ok .initial, .ok .initial] ∧
      outcomes ((start fun _ => 0).history compilers requests) "a" =
        outcomes ((start fun _ => 0).history compilers
          [⟨0, "a"⟩, ⟨0, "a"⟩, ⟨1, "a"⟩]) "a" := by
  intro compilers part logged requests
  have hseparates : ∀ provider, Separates (compilers provider) part := by
    intro provider
    have hattempt : ∀ identity loads, (compilers provider).attempt identity loads =
        (if loads identity = 0 then .error (.source identity "not found") else .ok .initial,
          Function.update loads identity (loads identity + 1)) := by
      intro identity loads
      by_cases hfirst : loads identity = 0
      · simp only [Compiler.attempt, compilers, if_pos hfirst]
      · simp only [Compiler.attempt, compilers, if_neg hfirst]
        rfl
    refine ⟨?_, ?_⟩
    · intro identity loads other hpart
      change loads identity = other identity at hpart
      rw [hattempt, hattempt, hpart]
      exact ⟨rfl, by simp [part]⟩
    · intro identity loads other hother
      rw [hattempt]
      exact Function.update_of_ne hother _ _
  exact ⟨hseparates, by rfl, by rfl, (caching_transparent compilers _).2 part hseparates requests "a"⟩

end Service

end GraphSchema
