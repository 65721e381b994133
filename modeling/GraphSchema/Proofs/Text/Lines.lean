import Mathlib
import GraphSchema.Text.Lines

/-!
# Texts and their lines

A text is a last line, or a line, a line feed and a text. Lines hold no line feeds.
-/

namespace GraphSchema.Text

theorem linesFrom_of_not_mem {line text : List Char} (h : '\n' ∉ text) (hne : line ++ text ≠ []) :
    linesFrom line text = [line.reverse ++ text] := by
  induction text generalizing line with
  | nil => simp_all [linesFrom]
  | cons c rest ih =>
    rw [List.mem_cons, not_or] at h
    have hc : c ≠ '\n' := Ne.symm h.1
    rw [linesFrom.eq_3 line c rest hc, ih h.2 (by simp)]
    simp

theorem lines_of_not_mem {text : List Char} (h : '\n' ∉ text) (hne : text ≠ []) :
    lines text = [text] :=
  linesFrom_of_not_mem h hne

theorem linesFrom_append {line text : List Char} (h : '\n' ∉ text) (rest : List Char) :
    linesFrom line (text ++ '\n' :: rest) = dropReturn (line.reverse ++ text) :: lines rest := by
  induction text generalizing line with
  | nil => simp [linesFrom, lines]
  | cons c tail ih =>
    rw [List.mem_cons, not_or] at h
    have hc : c ≠ '\n' := Ne.symm h.1
    rw [List.cons_append, linesFrom.eq_3 line c _ hc, ih h.2]
    simp

theorem lines_append {text : List Char} (h : '\n' ∉ text) (rest : List Char) :
    lines (text ++ '\n' :: rest) = dropReturn text :: lines rest :=
  linesFrom_append h rest

/-- Texts are made of lines. -/
theorem lines_induction {motive : List Char → Prop} (nil : motive [])
    (last : ∀ text, '\n' ∉ text → text ≠ [] → motive text)
    (line : ∀ text rest, '\n' ∉ text → motive rest → motive (text ++ '\n' :: rest))
    (text : List Char) : motive text := by
  by_cases hmem : '\n' ∈ text
  · obtain ⟨before, rest, rfl, hbefore⟩ := List.eq_append_cons_of_mem hmem
    exact line before rest hbefore (lines_induction nil last line rest)
  · by_cases hne : text = []
    · exact hne ▸ nil
    · exact last text hmem hne
  termination_by text.length
  decreasing_by simp_all; omega

theorem dropReturn_subset (line : List Char) : dropReturn line ⊆ line := by
  unfold dropReturn
  split
  · exact List.dropLast_subset line
  · exact List.Subset.refl line

/-- No line holds a line feed. -/
theorem not_mem_of_mem_lines {text line : List Char} (h : line ∈ lines text) : '\n' ∉ line := by
  induction text using lines_induction with
  | nil => simp [lines, linesFrom] at h
  | last text hmem hne =>
    rw [lines_of_not_mem hmem hne, List.mem_singleton] at h
    exact h ▸ hmem
  | line text rest hmem ih =>
    rw [lines_append hmem, List.mem_cons] at h
    rcases h with rfl | h
    · exact fun hfeed => hmem (dropReturn_subset text hfeed)
    · exact ih h

end GraphSchema.Text
