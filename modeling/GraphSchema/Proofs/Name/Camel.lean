import GraphSchema.Proofs.Name

/-!
# The camel-case form of names

A name in camel case is the underscores that the name starts with and, behind them, its parts
without any underscore between them. Nothing else of a name counts for its form.
-/

namespace GraphSchema.Name

open GraphSchema.Text

/-! ## Parts -/

/-- How many underscores a name starts with. -/
def leadingScores (name : String) : Nat :=
  (name.toList.takeWhile (· == '_')).length

/-- What stands between the underscores of a text. -/
def partsOf (text : List Char) : List (List Char) :=
  (text.splitOn '_').filter (· ≠ [])

def parts (name : String) : List (List Char) := partsOf name.toList

/-- The parts in a row, the first one begun with a small letter and the others with a capital. Digits
stay. -/
def joinParts : List (List Char) → List Char
  | [] => []
  | first :: rest => first.modifyHead Char.toLower ++ rest.flatMap (·.modifyHead Char.toUpper)

theorem split_eq_splitOn (sep : Char) (text : List Char) : split sep text = text.splitOn sep := by
  induction text with
  | nil => rfl
  | cons c rest ih =>
    rw [split, List.splitOn_cons_eq_if_modifyHead, ← ih]
    cases hsplit : split sep rest with
    | nil => exact absurd hsplit (split_ne_nil sep rest)
    | cons part parts => simp

theorem partsOf_score (rest : List Char) : partsOf ('_' :: rest) = partsOf rest := by
  unfold partsOf
  rw [List.splitOn_cons_eq_if_modifyHead]
  simp

theorem partsOf_append {scores : List Char} (h : ∀ c ∈ scores, c = '_') (text : List Char) :
    partsOf (scores ++ text) = partsOf text := by
  induction scores with
  | nil => rfl
  | cons c rest ih =>
    rw [List.forall_mem_cons] at h
    rw [List.cons_append, h.1, partsOf_score, ih h.2]

theorem partsOf_of_not_mem {text : List Char} (h : '_' ∉ text) :
    partsOf text = [text].filter (· ≠ []) := by
  rw [partsOf, ← split_eq_splitOn, split_of_not_mem h]

theorem isAlphanum_of_mem_partsOf {text part : List Char} (h : ∀ c ∈ text, isPart c)
    (hpart : part ∈ partsOf text) : ∀ c ∈ part, c.isAlphanum := by
  intro c hc
  rw [partsOf, ← split_eq_splitOn] at hpart
  obtain ⟨hmem, hne⟩ := mem_split (List.mem_of_mem_filter hpart) hc
  exact isAlphanum_of_isPart (h c hmem) hne

theorem ne_nil_of_mem_partsOf {text part : List Char} (h : part ∈ partsOf text) : part ≠ [] := by
  simpa using List.of_mem_filter h

/-! ## Joined parts -/

theorem capitalize_eq {word : List Char} (h : ∀ c ∈ word, c.isAlphanum) :
    capitalize word = word.modifyHead Char.toUpper := by
  cases word with
  | nil => rfl
  | cons c rest =>
    rw [capitalize, upper_of_ascii (toNat_lt_of_isAlphanum (h c List.mem_cons_self))]
    rfl

theorem uncapitalize_eq {word : List Char} (h : ∀ c ∈ word, c.isAlphanum) :
    uncapitalize word = word.modifyHead Char.toLower := by
  cases word with
  | nil => rfl
  | cons c rest =>
    rw [uncapitalize, lower_of_ascii (toNat_lt_of_isAlphanum (h c List.mem_cons_self))]
    rfl

theorem joinWords_eq {words : List (List Char)} (h : ∀ word ∈ words, ∀ c ∈ word, c.isAlphanum) :
    joinWords words = joinParts words := by
  cases words with
  | nil => rfl
  | cons first rest =>
    rw [List.forall_mem_cons] at h
    rw [joinWords, joinParts, uncapitalize_eq h.1]
    exact congrArg _ (List.flatMap_congr fun word hword => capitalize_eq (h.2 word hword))

/-- What is joined begins with a small letter already. -/
theorem modifyHead_joinParts {words : List (List Char)} (h : ∀ word ∈ words, word ≠ []) :
    (joinParts words).modifyHead Char.toLower = joinParts words := by
  cases words with
  | nil => rfl
  | cons first rest =>
    cases first with
    | nil => exact absurd rfl (h [] List.mem_cons_self)
    | cons c word => simp [joinParts]

/-! ## Camel case -/

theorem eq_score_of_mem_takeWhile {text : List Char} :
    ∀ c ∈ text.takeWhile (· == '_'), c = '_' := fun _ hc =>
  beq_iff_eq.1 (List.mem_takeWhile_imp (p := (· == '_')) hc)

theorem camelChars_eq_joinParts {text : List Char} (h : ∀ c ∈ text, isPart c) :
    camelChars text = text.takeWhile (· == '_') ++ joinParts (partsOf text) := by
  have hparts : partsOf (text.dropWhile (· == '_')) = partsOf text := by
    rw [← partsOf_append eq_score_of_mem_takeWhile, List.takeWhile_append_dropWhile]
  have hwords : (split '_' (text.dropWhile (· == '_'))).filter (!·.isEmpty) = partsOf text := by
    rw [← hparts, partsOf, split_eq_splitOn]
    refine List.filter_congr fun word _ => ?_
    cases word <;> rfl
  rw [camelChars, hwords, joinWords_eq fun word => isAlphanum_of_mem_partsOf h]

section

variable {name other : String} (h : IsIdentifier name) (hother : IsIdentifier other)
include h

theorem toList_camel :
    (camel name).toList = List.replicate (leadingScores name) '_' ++ joinParts (parts name) := by
  have hscores : name.toList.takeWhile (· == '_') = List.replicate (leadingScores name) '_' :=
    List.eq_replicate_iff.2 ⟨rfl, eq_score_of_mem_takeWhile⟩
  rw [camel, String.toList_ofList, camelChars_eq_joinParts (isPart_of_isIdentifier h), hscores,
    parts]

theorem score_not_mem_joinParts : '_' ∉ joinParts (parts name) := by
  have hparts : ∀ part ∈ parts name, ∀ c ∈ part, c.isAlphanum := fun part =>
    isAlphanum_of_mem_partsOf (isPart_of_isIdentifier h)
  rw [← joinWords_eq hparts]
  exact score_not_mem (isAlphanum_joinWords hparts)

theorem isIdentifier_camel : IsIdentifier (camel name) :=
  isValid_iff_isIdentifier.1 (isValid_camel (isValid_iff_isIdentifier.2 h))

theorem leadingScores_camel : leadingScores (camel name) = leadingScores name := by
  rw [leadingScores, camel, String.toList_ofList, takeWhile_camelChars (isPart_of_isIdentifier h)]
  rfl

/-- The underscores at the start are all there are. -/
theorem count_camel : (camel name).toList.count '_' = leadingScores name := by
  rw [toList_camel h, List.count_append, List.count_replicate_self,
    List.count_eq_zero.2 (score_not_mem_joinParts h), Nat.add_zero]

/-- A name in camel case has one part at most. -/
theorem joinParts_parts_camel : joinParts (parts (camel name)) = joinParts (parts name) := by
  -- Behind the underscores stands that part alone, and it begins with a small letter.
  have hsmall : (joinParts (parts name)).modifyHead Char.toLower = joinParts (parts name) :=
    modifyHead_joinParts fun _ => ne_nil_of_mem_partsOf
  rw [parts, toList_camel h, partsOf_append fun _ => List.eq_of_mem_replicate,
    partsOf_of_not_mem (score_not_mem_joinParts h)]
  generalize joinParts (parts name) = tail at hsmall ⊢
  cases tail with
  | nil => rfl
  | cons c rest => simpa [joinParts] using hsmall

theorem camel_camel : camel (camel name) = camel name := by
  rw [← String.toList_inj, toList_camel (isIdentifier_camel h), leadingScores_camel h,
    joinParts_parts_camel h, toList_camel h]

include hother

theorem camel_eq_camel_iff :
    camel name = camel other ↔
      leadingScores name = leadingScores other ∧
        joinParts (parts name) = joinParts (parts other) := by
  constructor
  · intro hcamel
    have hjoined : joinParts (parts name) = joinParts (parts other) := by
      rw [← joinParts_parts_camel h, ← joinParts_parts_camel hother, hcamel]
    exact ⟨by rw [← leadingScores_camel h, ← leadingScores_camel hother, hcamel], hjoined⟩
  · rintro ⟨hscores, hjoined⟩
    rw [← String.toList_inj, toList_camel h, toList_camel hother, hscores, hjoined]

end

/-- Camel case keeps names, and their underscores at the start as the only ones. It changes no name
a second time. Two names have one form if they start with as many underscores and their parts make
the same text. -/
theorem camel_canonical {name : String} (h : IsIdentifier name) :
    IsIdentifier (camel name) ∧
    leadingScores (camel name) = leadingScores name ∧
    (camel name).toList.count '_' = leadingScores name ∧
    camel (camel name) = camel name ∧
    ∀ other, IsIdentifier other → (camel name = camel other ↔
      leadingScores name = leadingScores other ∧
        joinParts (parts name) = joinParts (parts other)) :=
  ⟨isIdentifier_camel h, leadingScores_camel h, count_camel h, camel_camel h,
    fun _ => camel_eq_camel_iff h⟩

theorem camel_canonical_retries :
    camel (camel "__max__retries_2x_") = "__maxRetries2x" ∧
      joinParts (parts "__max__retries_2x_") = joinParts (parts "__Max_retries2x") := by
  have h : IsIdentifier "__max__retries_2x_" := isValid_iff_isIdentifier.1 (by decide)
  have hother : IsIdentifier "__Max_retries2x" := isValid_iff_isIdentifier.1 (by decide)
  obtain ⟨-, -, -, htwice, hform⟩ := camel_canonical h
  exact ⟨htwice.trans (by decide), ((hform _ hother).1 (by decide)).2⟩

end GraphSchema.Name
