import GraphSchema.Proofs.Text.Lines
import GraphSchema.Sdl.Printer

/-!
# Escaped descriptions

Escaping works line by line and loses nothing, and no escaped line starts with the three quotes
that end a description.
-/

namespace GraphSchema.Sdl

theorem getLast?_escapeQuotes (text : List Char) :
    (escapeQuotes text).getLast? = text.getLast? := by
  induction text using escapeQuotes.induct with
  | case1 rest ih => simp [escapeQuotes, List.getLast?_cons, ih]
  | case2 c rest hno ih =>
    rw [escapeQuotes.eq_2 c rest hno, List.getLast?_cons, List.getLast?_cons, ih]
  | case3 => rfl

/-- Only three quotes in a row are changed, so what comes behind another character is apart. -/
theorem escapeQuotes_append {c : Char} (hc : c ≠ '"') (text rest : List Char) :
    escapeQuotes (text ++ c :: rest) = escapeQuotes text ++ c :: escapeQuotes rest := by
  induction text using escapeQuotes.induct with
  | case1 text ih => simp [escapeQuotes, ih]
  | case2 d text hno ih =>
    have hno' : ∀ more, d = '"' → text ++ c :: rest = '"' :: '"' :: more → False := by
      intro more hd heq
      rcases text with _ | ⟨e, _ | ⟨f, text⟩⟩
      · simp_all
      · simp_all
      · simp_all
    rw [escapeQuotes.eq_2 d text hno, List.cons_append, escapeQuotes.eq_2 d _ hno', ih,
      List.cons_append]
  | case3 =>
    rw [List.nil_append, escapeQuotes.eq_2 c rest fun _ heq _ => hc heq]
    rfl

theorem mem_escapeQuotes {c : Char} {text : List Char} (h : c ∈ escapeQuotes text) :
    c ∈ text ∨ c = '\\' := by
  induction text using escapeQuotes.induct with
  | case1 rest ih =>
    simp only [escapeQuotes, List.mem_cons] at h ⊢
    tauto
  | case2 d rest hno ih =>
    rw [escapeQuotes.eq_2 d rest hno, List.mem_cons] at h
    rw [List.mem_cons]
    tauto
  | case3 => exact .inl h

theorem escapeQuotes_eq_nil_iff {text : List Char} : escapeQuotes text = [] ↔ text = [] := by
  rw [← List.getLast?_eq_none_iff, getLast?_escapeQuotes, List.getLast?_eq_none_iff]

theorem dropReturn_escapeQuotes (text : List Char) :
    Text.dropReturn (escapeQuotes text) = escapeQuotes (Text.dropReturn text) := by
  unfold Text.dropReturn
  rw [getLast?_escapeQuotes]
  split
  · rename_i hlast
    obtain ⟨init, rfl⟩ := List.getLast?_eq_some_iff.1 hlast
    rw [escapeQuotes_append (by decide)]
    simp [escapeQuotes]
  · rfl

/-- Escaping keeps the lines of a text apart. -/
theorem lines_escapeQuotes (text : List Char) :
    Text.lines (escapeQuotes text) = (Text.lines text).map escapeQuotes := by
  have hmem : ∀ {text : List Char}, '\n' ∉ text → '\n' ∉ escapeQuotes text := by
    intro text h hfeed
    rcases mem_escapeQuotes hfeed with hfeed | hfeed
    · exact h hfeed
    · revert hfeed
      decide
  induction text using Text.lines_induction with
  | nil => rfl
  | last text h hne =>
    rw [Text.lines_of_not_mem h hne,
      Text.lines_of_not_mem (hmem h) (escapeQuotes_eq_nil_iff.not.2 hne), List.map_singleton]
  | line text rest h ih =>
    rw [escapeQuotes_append (by decide), Text.lines_append (hmem h), Text.lines_append h,
      List.map_cons, ih, dropReturn_escapeQuotes]

/-! ## Reading back -/

/-- A text is empty, starts with three quotes, or goes on after its first character. -/
theorem escapeQuotes_cases (text : List Char) :
    text = [] ∨
      (∃ rest, text = '"' :: '"' :: '"' :: rest ∧
        escapeQuotes text = '\\' :: '"' :: '"' :: '"' :: escapeQuotes rest) ∨
      ∃ c rest, text = c :: rest ∧ escapeQuotes text = c :: escapeQuotes rest := by
  cases text using escapeQuotes.induct with
  | case1 rest => exact .inr (.inl ⟨rest, rfl, rfl⟩)
  | case2 c rest hno => exact .inr (.inr ⟨c, rest, rfl, escapeQuotes.eq_2 c rest hno⟩)
  | case3 => exact .inl rfl

theorem eq_cons_of_escapeQuotes_eq_quote {text rest : List Char}
    (h : escapeQuotes text = '"' :: rest) :
    ∃ more, text = '"' :: more ∧ rest = escapeQuotes more := by
  obtain rfl | ⟨more, rfl, heq⟩ | ⟨c, more, rfl, heq⟩ := escapeQuotes_cases text
  · cases h
  · rw [heq] at h
    cases h
  · rw [heq] at h
    cases h
    exact ⟨more, rfl, rfl⟩

/-- No escaped text starts with three quotes. -/
theorem escapeQuotes_ne_quotes (text rest : List Char) :
    escapeQuotes text ≠ '"' :: '"' :: '"' :: rest := by
  intro h
  obtain ⟨first, rfl, hfirst⟩ := eq_cons_of_escapeQuotes_eq_quote h
  obtain ⟨second, rfl, hsecond⟩ := eq_cons_of_escapeQuotes_eq_quote hfirst.symm
  obtain ⟨third, rfl, -⟩ := eq_cons_of_escapeQuotes_eq_quote hsecond.symm
  cases h

/-- Nor does it with what comes behind it, if that starts with another character. -/
theorem escapeQuotes_append_ne_quotes {c : Char} (hc : c ≠ '"') (text rest more : List Char) :
    escapeQuotes text ++ c :: rest ≠ '"' :: '"' :: '"' :: more := by
  intro h
  cases htext : escapeQuotes text with
  | nil =>
    rw [htext, List.nil_append, List.cons.injEq] at h
    exact hc h.1
  | cons first tail =>
    rcases tail with _ | ⟨second, _ | ⟨third, tail⟩⟩ <;>
      simp only [htext, List.cons_append, List.nil_append, List.cons.injEq] at h
    · exact hc h.2.1
    · exact hc h.2.2.1
    · obtain ⟨rfl, rfl, rfl, -⟩ := h
      exact escapeQuotes_ne_quotes text tail htext

theorem escapeQuotes_injective : Function.Injective escapeQuotes := by
  intro text other h
  induction text using escapeQuotes.induct generalizing other with
  | case1 rest ih =>
    obtain rfl | ⟨more, rfl, -⟩ | ⟨c, more, rfl, heq⟩ := escapeQuotes_cases other
    · cases h
    · simp only [escapeQuotes, List.cons.injEq, true_and] at h
      rw [ih h]
    · rw [heq, escapeQuotes, List.cons.injEq] at h
      exact absurd h.2.symm (escapeQuotes_ne_quotes more _)
  | case2 c rest hno ih =>
    rw [escapeQuotes.eq_2 c rest hno] at h
    obtain rfl | ⟨more, rfl, heq⟩ | ⟨d, more, rfl, heq⟩ := escapeQuotes_cases other
    · cases h
    · rw [heq, List.cons.injEq] at h
      exact absurd h.2 (escapeQuotes_ne_quotes rest _)
    · rw [heq, List.cons.injEq] at h
      rw [h.1, ih h.2]
  | case3 => exact (escapeQuotes_eq_nil_iff.1 h.symm).symm

end GraphSchema.Sdl
