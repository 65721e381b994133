import Mathlib

/-!
# Reading back

A way of writing values is readable if a text that starts with a written value tells which value it
is and where it ends. What may follow a value is part of that: names end where a character comes
that no name has.
-/

namespace GraphSchema.Text

variable {α : Type}

/-- The text is not empty and its first character is as wanted. -/
def Starts (p : Char → Prop) (text : List Char) : Prop :=
  ∃ c rest, text = c :: rest ∧ p c

@[simp] theorem starts_cons {p : Char → Prop} {c : Char} {rest : List Char} :
    Starts p (c :: rest) ↔ p c := by
  simp [Starts]

theorem Starts.imp {p q : Char → Prop} {text : List Char} (h : Starts p text)
    (himp : ∀ c, p c → q c) : Starts q text := by
  obtain ⟨c, rest, rfl, hc⟩ := h
  exact ⟨c, rest, rfl, himp c hc⟩

theorem Starts.append {p : Char → Prop} {text : List Char} (h : Starts p text)
    (rest : List Char) : Starts p (text ++ rest) := by
  obtain ⟨c, tail, rfl, hc⟩ := h
  exact ⟨c, tail ++ rest, rfl, hc⟩

/-- Two texts that start differently are different. -/
theorem Starts.ne {p q : Char → Prop} {text other : List Char} (h : Starts p text)
    (h' : Starts q other) (hpq : ∀ c, p c → ¬ q c) : text ≠ other := by
  obtain ⟨c, rest, rfl, hc⟩ := h
  obtain ⟨d, rest', rfl, hd⟩ := h'
  rintro ⟨⟩
  exact hpq c hc hd

/-- Values of the given sort can be read back from what is written, when `Next` holds of what
follows. -/
def Readable (Valid : α → Prop) (write : α → List Char) (Next : List Char → Prop) : Prop :=
  ∀ ⦃a b⦄, Valid a → Valid b → ∀ ⦃r s⦄, Next r → Next s →
    write a ++ r = write b ++ s → a = b ∧ r = s

/-- A text of certain characters ends where another character comes. -/
theorem readable_chars (p : Char → Bool) :
    Readable (fun text : List Char => ∀ c ∈ text, p c) id (Starts fun c => p c = false) := by
  intro a b ha hb r s hr hs h
  have htake : ∀ text r, (∀ c ∈ text, p c) → (Starts fun c => p c = false) r →
      (text ++ r).takeWhile p = text := by
    rintro text r htext ⟨c, rest, rfl, hc⟩
    rw [List.takeWhile_append_of_pos htext, List.takeWhile_cons_of_neg (by simp [hc]),
      List.append_nil]
  have hsame : a = b := by
    rw [← htake a r ha hr, ← htake b s hb hs]
    exact congrArg _ h
  subst hsame
  exact ⟨rfl, List.append_cancel_left h⟩

namespace Readable

variable {Valid : α → Prop} {write : α → List Char} {Next : List Char → Prop}

/-- Written values one after the other, up to an end that is no start of a value. -/
theorem flatMap {End : List Char → Prop} (h : Readable Valid write Next)
    (hnext : ∀ a r, Valid a → Next (write a ++ r)) (hlast : ∀ r, End r → Next r)
    (hend : ∀ a r s, Valid a → End r → write a ++ s ≠ r) :
    Readable (fun items : List α => ∀ a ∈ items, Valid a) (List.flatMap write) End := by
  intro items others hitems hothers r s hr hs heq
  have hfollow : ∀ {items : List α} {r : List Char}, (∀ a ∈ items, Valid a) → End r →
      Next (items.flatMap write ++ r) := by
    rintro (_ | ⟨a, items⟩) r hitems hr
    · exact hlast r hr
    · rw [List.flatMap_cons, List.append_assoc]
      exact hnext a _ (hitems a List.mem_cons_self)
  induction items generalizing others with
  | nil =>
    cases others with
    | nil => exact ⟨rfl, heq⟩
    | cons b others =>
      rw [List.flatMap_cons, List.append_assoc] at heq
      exact absurd heq.symm (hend b r _ (hothers b List.mem_cons_self) hr)
  | cons a items ih =>
    rw [List.flatMap_cons, List.append_assoc] at heq
    cases others with
    | nil => exact absurd heq (hend a s _ (hitems a List.mem_cons_self) hs)
    | cons b others =>
      rw [List.flatMap_cons, List.append_assoc] at heq
      rw [List.forall_mem_cons] at hitems hothers
      obtain ⟨rfl, hrest⟩ :=
        h hitems.1 hothers.1 (hfollow hitems.2 hr) (hfollow hothers.2 hs) heq
      obtain ⟨rfl, rfl⟩ := ih hitems.2 hothers.2 hrest
      exact ⟨rfl, rfl⟩

theorem intercalate_cons (sep : List Char) (write : α → List Char) (a : α) (items : List α) :
    sep.intercalate ((a :: items).map write) =
      write a ++ items.flatMap fun other => sep ++ write other := by
  induction items generalizing a with
  | nil => simp
  | cons b items ih =>
    rw [List.map_cons, List.map_cons, List.intercalate_cons_cons, ← List.map_cons, ih,
      List.flatMap_cons]
    simp only [List.append_assoc]

/-- Written values with a separator between each two, up to an end that is no separator. -/
theorem intercalate {sep : List Char} {End : List Char → Prop} (h : Readable Valid write Next)
    (hsep : ∀ r, Next (sep ++ r)) (hlast : ∀ r, End r → Next r)
    (hend : ∀ r s, End r → sep ++ s ≠ r) :
    Readable (fun items : List α => items ≠ [] ∧ ∀ a ∈ items, Valid a)
      (fun items => sep.intercalate (items.map write)) End := by
  have hothers : Readable (fun items : List α => ∀ a ∈ items, Valid a)
      (List.flatMap fun other => sep ++ write other) End := by
    have hother : Readable Valid (fun other => sep ++ write other) Next := by
      intro a b ha hb r s hr hs heq
      rw [List.append_assoc, List.append_assoc] at heq
      exact h ha hb hr hs (List.append_cancel_left heq)
    refine hother.flatMap ?_ hlast ?_
    · intro a r _
      rw [List.append_assoc]
      exact hsep _
    · intro a r s _ hr
      rw [List.append_assoc]
      exact hend r _ hr
  have hfollow : ∀ {items : List α} {r : List Char}, End r →
      Next (items.flatMap (fun other => sep ++ write other) ++ r) := by
    rintro (_ | ⟨a, items⟩) r hr
    · exact hlast r hr
    · rw [List.flatMap_cons, List.append_assoc, List.append_assoc]
      exact hsep _
  rintro (_ | ⟨a, items⟩) (_ | ⟨b, others⟩) ⟨hne, ha⟩ ⟨hne', hb⟩ r s hr hs heq
  · exact absurd rfl hne
  · exact absurd rfl hne
  · exact absurd rfl hne'
  · simp only [intercalate_cons, List.append_assoc] at heq
    rw [List.forall_mem_cons] at ha hb
    obtain ⟨rfl, hrest⟩ := h ha.1 hb.1 (hfollow hr) (hfollow hs) heq
    obtain ⟨rfl, hlast⟩ := hothers ha.2 hb.2 hr hs hrest
    exact ⟨rfl, hlast⟩

end Readable

/-! ## Scanners -/

variable {σ : Type}

/-- Reads a text with a machine that stops at characters it does not take. -/
def scan (step : σ → Char → Option σ) (state : σ) (text : List Char) : Option σ :=
  text.foldlM step state

theorem scan_append (step : σ → Char → Option σ) (state : σ) (text rest : List Char) :
    scan step state (text ++ rest) = (scan step state text).bind (scan step · rest) := by
  simp [scan, List.foldlM_append]

/-- Texts that a machine takes in full end where a character comes that it does not take. -/
theorem readable_scan (step : σ → Char → Option σ) (start final : σ) :
    Readable (fun text : List Char => scan step start text = some final) id
      (Starts fun c => step final c = none) := by
  have hprefix : ∀ {text more r : List Char}, scan step start text = some final →
      scan step start (text ++ more) = some final → (Starts fun c => step final c = none) r →
      ∀ s, r = more ++ s → more = [] := by
    rintro text (_ | ⟨d, more⟩) r htext hmore ⟨c, rest, rfl, hc⟩ s heq
    · rfl
    · rw [List.cons_append, List.cons.injEq] at heq
      rw [scan_append, htext, Option.bind_some, scan, List.foldlM_cons, ← heq.1, hc] at hmore
      cases hmore
  intro a b ha hb r s hr hs heq
  rcases List.append_eq_append_iff.1 heq with ⟨more, rfl, hmore⟩ | ⟨more, rfl, hmore⟩
  · obtain rfl := hprefix ha hb hr s hmore
    exact ⟨(List.append_nil a).symm, hmore⟩
  · obtain rfl := hprefix hb ha hs r hmore
    exact ⟨List.append_nil b, hmore.symm⟩

end GraphSchema.Text
