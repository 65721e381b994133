import Mathlib
import GraphSchema.Name

/-!
# Names in camel case

Camel case keeps what makes a text a name: the result starts and goes on with characters of names.
It also keeps the underscores at the start, and so what is reserved.
-/

namespace GraphSchema.Name

open GraphSchema.Text

/-! ## Valid names -/

theorem isValid_iff {name : String} :
    isValid name ↔
      ∃ c rest, name.toList = c :: rest ∧ isStart c = true ∧ ∀ d ∈ rest, isPart d = true := by
  unfold isValid flaw?
  rw [Option.isNone_iff_eq_none]
  cases name.toList with
  | nil => simp [flawOf?]
  | cons c rest => simp [flawOf?_cons_eq_none_iff]

/-- `[A-Za-z_][A-Za-z0-9_]*` -/
def IsIdentifier (text : String) : Prop :=
  ∃ first rest, text.toList = first :: rest ∧ (first.isAlpha ∨ first = '_') ∧
    ∀ c ∈ rest, c.isAlphanum ∨ c = '_'

theorem isValid_iff_isIdentifier {name : String} : isValid name ↔ IsIdentifier name := by
  simp only [isValid_iff, IsIdentifier, isStart, isPart, Bool.or_eq_true, beq_iff_eq]

theorem isPart_of_isStart {c : Char} (h : isStart c = true) : isPart c = true := by
  simp only [isStart, isPart, Char.isAlphanum, Bool.or_eq_true] at *
  tauto

theorem isPart_of_isValid {name : String} (h : isValid name) : ∀ c ∈ name.toList, isPart c := by
  obtain ⟨c, rest, htext, hstart, hrest⟩ := isValid_iff.1 h
  rw [htext]
  rintro d (_ | ⟨_, hd⟩)
  · exact isPart_of_isStart hstart
  · exact hrest d hd

theorem isPart_of_isIdentifier {name : String} (h : IsIdentifier name) :
    ∀ c ∈ name.toList, isPart c :=
  isPart_of_isValid (isValid_iff_isIdentifier.2 h)

/-! ## Letters and digits -/

theorem toNat_lt_of_isAlphanum {c : Char} (h : c.isAlphanum) : c.toNat < 128 := by
  simp only [Char.isAlphanum, Char.isAlpha, Char.isUpper, Char.isLower, Char.isDigit,
    Bool.or_eq_true, Bool.and_eq_true, decide_eq_true_eq, UInt32.le_iff_toNat_le, ge_iff_le] at h
  change ((65 ≤ c.toNat ∧ c.toNat ≤ 90) ∨ (97 ≤ c.toNat ∧ c.toNat ≤ 122)) ∨
    (48 ≤ c.toNat ∧ c.toNat ≤ 57) at h
  omega

/-- What holds of the 128 characters of ASCII one by one. -/
theorem forall_ascii {P : Char → Prop} (h : ∀ n < 128, P (Char.ofNat n)) {c : Char}
    (hc : c.toNat < 128) : P c :=
  Char.ofNat_toNat c ▸ h c.toNat hc

theorem case_isAlphanum {c : Char} (h : c.isAlphanum) :
    c.toUpper.isAlphanum ∧ c.toLower.isAlphanum ∧ (c.isAlpha → c.toLower.isAlpha) := by
  have hall : ∀ n < 128, (Char.ofNat n).isAlphanum → (Char.ofNat n).toUpper.isAlphanum ∧
      (Char.ofNat n).toLower.isAlphanum ∧
        ((Char.ofNat n).isAlpha → (Char.ofNat n).toLower.isAlpha) := by decide
  exact forall_ascii (P := fun c => c.isAlphanum → c.toUpper.isAlphanum ∧ c.toLower.isAlphanum ∧
    (c.isAlpha → c.toLower.isAlpha)) hall (toNat_lt_of_isAlphanum h) h

theorem isPart_of_isAlphanum {c : Char} (h : c.isAlphanum) : isPart c = true := by
  simp [isPart, h]

theorem isAlphanum_of_isPart {c : Char} (h : isPart c = true) (hne : c ≠ '_') : c.isAlphanum := by
  simpa [isPart, hne] using h

theorem score_not_mem {text : List Char} (h : ∀ c ∈ text, c.isAlphanum) : '_' ∉ text :=
  fun hmem => absurd (h '_' hmem) (by decide)

/-! ## Words -/

theorem mem_split {sep c : Char} {text part : List Char} (hpart : part ∈ split sep text)
    (hc : c ∈ part) : c ∈ text ∧ c ≠ sep := by
  induction text generalizing part with
  | nil => simp_all [split]
  | cons d rest ih =>
    rw [split] at hpart
    split at hpart
    · rcases List.mem_cons.1 hpart with rfl | hpart
      · cases hc
      · exact (ih hpart hc).imp_left (List.mem_cons_of_mem d)
    · rename_i hne
      split at hpart
      · simp_all
      · rename_i first parts hrest
        rcases List.mem_cons.1 hpart with rfl | hpart
        · rcases List.mem_cons.1 hc with rfl | hc
          · exact ⟨List.mem_cons_self, hne⟩
          · exact (ih (hrest ▸ List.mem_cons_self) hc).imp_left (List.mem_cons_of_mem d)
        · exact (ih (hrest ▸ List.mem_cons_of_mem first hpart) hc).imp_left
            (List.mem_cons_of_mem d)

theorem split_cons_of_ne {sep c : Char} {rest : List Char} (h : c ≠ sep) :
    ∃ part parts, split sep (c :: rest) = (c :: part) :: parts := by
  rw [split, if_neg h]
  split
  · exact ⟨[], [], rfl⟩
  · exact ⟨_, _, rfl⟩

theorem isAlphanum_capitalize {word : List Char} (h : ∀ c ∈ word, c.isAlphanum) :
    ∀ c ∈ capitalize word, c.isAlphanum := by
  cases word with
  | nil => exact h
  | cons d rest =>
    have hd := h d List.mem_cons_self
    rw [capitalize, upper_of_ascii (toNat_lt_of_isAlphanum hd)]
    rintro c (_ | ⟨_, hc⟩)
    · exact (case_isAlphanum hd).1
    · exact h c (List.mem_cons_of_mem d hc)

theorem isAlphanum_uncapitalize {word : List Char} (h : ∀ c ∈ word, c.isAlphanum) :
    ∀ c ∈ uncapitalize word, c.isAlphanum := by
  cases word with
  | nil => exact h
  | cons d rest =>
    have hd := h d List.mem_cons_self
    rw [uncapitalize, lower_of_ascii (toNat_lt_of_isAlphanum hd)]
    rintro c (_ | ⟨_, hc⟩)
    · exact (case_isAlphanum hd).2.1
    · exact h c (List.mem_cons_of_mem d hc)

theorem isAlphanum_joinWords {words : List (List Char)}
    (h : ∀ word ∈ words, ∀ c ∈ word, c.isAlphanum) : ∀ c ∈ joinWords words, c.isAlphanum := by
  cases words with
  | nil => simp [joinWords]
  | cons word words =>
    intro c hc
    rcases List.mem_append.1 hc with hc | hc
    · exact isAlphanum_uncapitalize (h word List.mem_cons_self) c hc
    · obtain ⟨other, hother, hc⟩ := List.mem_flatMap.1 hc
      exact isAlphanum_capitalize (h other (List.mem_cons_of_mem word hother)) c hc

theorem ne_of_dropWhile {sep c : Char} {text rest : List Char}
    (h : text.dropWhile (· == sep) = c :: rest) : c ≠ sep := by
  have hhead := List.head_dropWhile_not (p := (· == sep)) (l := text) (by simp [h])
  simpa [h] using hhead

/-! ## Camel case -/

/-- A name is underscores and, behind them, words of letters and digits. -/
theorem camelChars_eq {text : List Char} (h : ∀ c ∈ text, isPart c = true) :
    ∃ tail, camelChars text = text.takeWhile (· == '_') ++ tail ∧ (∀ c ∈ tail, c.isAlphanum) ∧
      ∀ c rest, text.dropWhile (· == '_') = c :: rest → ∃ tail', tail = c.toLower :: tail' := by
  refine ⟨_, rfl, ?_, ?_⟩
  · refine isAlphanum_joinWords fun word hword c hc => ?_
    obtain ⟨hmem, hne⟩ := mem_split (List.mem_of_mem_filter hword) hc
    exact isAlphanum_of_isPart (h c ((List.dropWhile_suffix _).subset hmem)) hne
  · intro c rest hdrop
    have hne : c ≠ '_' := ne_of_dropWhile hdrop
    have hc : c.isAlphanum :=
      isAlphanum_of_isPart (h c ((List.dropWhile_suffix _).subset (hdrop ▸ List.mem_cons_self))) hne
    obtain ⟨part, parts, hsplit⟩ : ∃ part parts, split '_' (c :: rest) = (c :: part) :: parts :=
      split_cons_of_ne hne
    rw [hdrop, hsplit, List.filter_cons_of_pos (by simp), joinWords, uncapitalize,
      lower_of_ascii (toNat_lt_of_isAlphanum hc)]
    exact ⟨_, rfl⟩

theorem not_underscore_of_isAlphanum {c : Char} (h : c.isAlphanum) : (c == '_') = false := by
  rw [beq_eq_false_iff_ne]
  rintro rfl
  revert h
  decide

/-- Camel case keeps the underscores at the start of a name. -/
theorem takeWhile_camelChars {text : List Char} (h : ∀ c ∈ text, isPart c = true) :
    (camelChars text).takeWhile (· == '_') = text.takeWhile (· == '_') := by
  obtain ⟨tail, heq, htail, -⟩ := camelChars_eq h
  have hscores : ∀ c ∈ text.takeWhile (· == '_'), (c == '_') = true := fun c hc =>
    List.mem_takeWhile_imp (p := (· == '_')) hc
  rw [heq, List.takeWhile_append_of_pos hscores]
  cases tail with
  | nil => simp
  | cons c rest =>
    rw [List.takeWhile_cons_of_neg, List.append_nil]
    simp [not_underscore_of_isAlphanum (htail c List.mem_cons_self)]

/-- Camel case makes names of names. -/
theorem isValid_camel {name : String} (h : isValid name) : isValid (camel name) := by
  have hparts := isPart_of_isValid h
  obtain ⟨c, rest, htext, hstart, -⟩ := isValid_iff.1 h
  obtain ⟨tail, heq, htail, hhead⟩ := camelChars_eq hparts
  rw [isValid_iff, camel, String.toList_ofList, heq, htext]
  by_cases hc : c = '_'
  · subst hc
    refine ⟨'_', rest.takeWhile (· == '_') ++ tail, by simp, hstart, ?_⟩
    intro d hd
    rcases List.mem_append.1 hd with hd | hd
    · exact hparts d (htext ▸ List.mem_cons_of_mem _ ((List.takeWhile_prefix _).subset hd))
    · exact isPart_of_isAlphanum (htail d hd)
  · -- A name that starts with a letter starts with its small form.
    obtain ⟨tail', rfl⟩ := hhead c rest (by simp [htext, hc])
    have halpha : c.isAlpha := by simpa [isStart, hc] using hstart
    have hlower : c.toLower.isAlpha :=
      (case_isAlphanum (by simp [Char.isAlphanum, halpha])).2.2 halpha
    refine ⟨c.toLower, tail', by simp [hc], by simp [isStart, hlower], ?_⟩
    intro d hd
    exact isPart_of_isAlphanum (htail d (List.mem_cons_of_mem _ hd))

end GraphSchema.Name
