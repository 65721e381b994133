/-!
# Lines

A text is cut into lines at line feeds. A carriage return directly before the line feed belongs
to the line's end, and a text that ends with a line feed has no further, empty line.
-/

namespace GraphSchema.Text

/-- The line without a carriage return at its end. -/
def dropReturn (line : List Char) : List Char :=
  if line.getLast? = some '\r' then line.dropLast else line

/-- Cuts the text into lines; `line` holds what was read of the current one, in reverse. -/
def linesFrom (line : List Char) : List Char → List (List Char)
  | [] => if line.isEmpty then [] else [line.reverse]
  | '\n' :: rest => dropReturn line.reverse :: linesFrom [] rest
  | c :: rest => linesFrom (c :: line) rest

def lines (text : List Char) : List (List Char) :=
  linesFrom [] text

/-- Cuts a text at every `sep`. There is always one part more than there are separators. -/
def split (sep : Char) : List Char → List (List Char)
  | [] => [[]]
  | c :: rest =>
    if c = sep then
      [] :: split sep rest
    else
      match split sep rest with
      | [] => [[c]]
      | part :: parts => (c :: part) :: parts

theorem split_ne_nil (sep : Char) (text : List Char) : split sep text ≠ [] := by
  cases text with
  | nil => simp [split]
  | cons c rest =>
    simp only [split]
    split
    · simp
    · split <;> simp

theorem split_append (sep : Char) (text rest : List Char) :
    split sep (text ++ sep :: rest) = split sep text ++ split sep rest := by
  induction text with
  | nil => exact if_pos rfl
  | cons c text ih =>
    rw [List.cons_append, split, split, ih]
    by_cases hc : c = sep
    · rw [if_pos hc, if_pos hc]
      rfl
    · rw [if_neg hc, if_neg hc]
      cases h : split sep text with
      | nil => exact absurd h (split_ne_nil sep text)
      | cons part parts => rfl

theorem split_of_not_mem {sep : Char} {text : List Char} (h : sep ∉ text) :
    split sep text = [text] := by
  induction text with
  | nil => rfl
  | cons c text ih =>
    rw [List.mem_cons, not_or] at h
    rw [split, if_neg (Ne.symm h.1), ih h.2]

end GraphSchema.Text
