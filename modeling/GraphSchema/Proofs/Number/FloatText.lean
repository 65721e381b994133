import GraphSchema.Proofs.Number.Shortest

/-!
# The texts of doubles

A double prints as a number with a point, an exponent or both, whatever its layout, and that number
rounds to the double.
-/

namespace GraphSchema.Double

/-! ## Numbers -/

/-- One digit or more. -/
structure Digits (text : List Char) : Prop where
  nonempty : text ≠ []
  digits : ∀ c ∈ text, c.isDigit

theorem Digits.of_subset {text part : List Char} (h : Digits text) (hpart : part ≠ [])
    (hsubset : part ⊆ text) : Digits part :=
  ⟨hpart, fun c hc => h.digits c (hsubset hc)⟩

/-- Digits that start with a zero only when that is all. -/
structure Whole (text : List Char) : Prop extends Digits text where
  lead : text.head? = some '0' → text = ['0']

/-- Digits with or without a sign, and their value. -/
inductive Exponent : List Char → Int → Prop where
  | unsigned {digits : List Char} (h : Digits digits) :
    Exponent digits (Nat.ofDigitChars 10 digits 0)
  | plus {digits : List Char} (h : Digits digits) :
    Exponent ('+' :: digits) (Nat.ofDigitChars 10 digits 0)
  | minus {digits : List Char} (h : Digits digits) :
    Exponent ('-' :: digits) (-Nat.ofDigitChars 10 digits 0)

/-- The text of a number that is no integer literal, and the number. -/
inductive Magnitude : List Char → ℚ → Prop where
  | point {whole fraction : List Char} (before : Whole whole) (behind : Digits fraction) :
    Magnitude (whole ++ '.' :: fraction)
      (Nat.ofDigitChars 10 (whole ++ fraction) 0 * 10 ^ (-fraction.length : Int))
  | exponent {whole exponent : List Char} {power : Int} (before : Whole whole)
      (scale : Exponent exponent power) :
    Magnitude (whole ++ 'e' :: exponent) (Nat.ofDigitChars 10 whole 0 * 10 ^ power)
  | both {whole fraction exponent : List Char} {power : Int} (before : Whole whole)
      (behind : Digits fraction) (scale : Exponent exponent power) :
    Magnitude (whole ++ '.' :: fraction ++ 'e' :: exponent)
      (Nat.ofDigitChars 10 (whole ++ fraction) 0 * 10 ^ (power - fraction.length))

/-- The text is a number that rounds to the double, behind the sign of the double. -/
def Writes (x : Double) (text : List Char) : Prop :=
  ∃ magnitude r, text = (if x.isNegative then ['-'] else []) ++ magnitude ∧
    Magnitude magnitude r ∧ x.interval.Contains r

/-! ## Digits -/

theorem digitChars_eq (n : Nat) : digitChars n = Nat.toDigits 10 n := Nat.toList_repr

theorem digits_digitChars (n : Nat) : Digits (digitChars n) where
  nonempty := by
    rw [digitChars_eq]
    exact Nat.toDigits_ne_nil
  digits c hc := by
    rw [digitChars_eq] at hc
    exact Nat.isDigit_of_mem_toDigits (by decide) (by decide) hc

theorem ofDigitChars_digitChars (n : Nat) : Nat.ofDigitChars 10 (digitChars n) 0 = n := by
  rw [digitChars_eq, Nat.ofDigitChars_ten_toDigits]

theorem head_digitChars {n : Nat} (h : n ≠ 0) : (digitChars n).head? ≠ some '0' := by
  rw [digitChars_eq]
  induction n using Nat.strong_induction_on with
  | _ n ih =>
    rw [Nat.toDigits_eq_if (by decide)]
    split
    · rename_i hsmall
      have hdigit : ∀ m < 10, m ≠ 0 → some m.digitChar ≠ some '0' := by decide
      exact hdigit n hsmall h
    · rw [List.head?_append_of_ne_nil _ Nat.toDigits_ne_nil]
      exact ih (n / 10) (by omega) (by omega)

/-- Digits in front of which a number's own come first start as it does. -/
theorem whole_append {n : Nat} (h : n ≠ 0) {rest : List Char} (hrest : ∀ c ∈ rest, c.isDigit) :
    Whole (digitChars n ++ rest) where
  nonempty := List.append_ne_nil_of_left_ne_nil (digits_digitChars n).nonempty rest
  digits c hc := (List.mem_append.1 hc).elim ((digits_digitChars n).digits c) (hrest c)
  lead hzero := by
    rw [List.head?_append_of_ne_nil _ (digits_digitChars n).nonempty] at hzero
    exact absurd hzero (head_digitChars h)

theorem whole_take {n count : Nat} (h : n ≠ 0) (hcount : count ≠ 0) :
    Whole ((digitChars n).take count) where
  toDigits := by
    refine (digits_digitChars n).of_subset ?_ (List.take_subset count _)
    rw [ne_eq, List.take_eq_nil_iff]
    exact not_or.2 ⟨hcount, (digits_digitChars n).nonempty⟩
  lead hzero := by
    rw [List.head?_take, if_neg hcount] at hzero
    exact absurd hzero (head_digitChars h)

theorem whole_zero : Whole ['0'] where
  nonempty := List.cons_ne_nil _ _
  digits := List.forall_mem_singleton.2 rfl
  lead _ := rfl

/-! ## Layouts -/

theorem exponent_signedChars (plus : Bool) (n : Int) : Exponent (signedChars plus n) n := by
  unfold signedChars
  split
  · have hminus := Exponent.minus (digits_digitChars (-n).toNat)
    rw [ofDigitChars_digitChars] at hminus
    rwa [Int.toNat_of_nonneg (by omega), neg_neg] at hminus
  · have hvalue : (Nat.ofDigitChars 10 (digitChars n.toNat) 0 : Int) = n := by
      rw [ofDigitChars_digitChars, Int.toNat_of_nonneg (by omega)]
    split
    · have hplus := Exponent.plus (digits_digitChars n.toNat)
      rwa [hvalue] at hplus
    · have hunsigned := Exponent.unsigned (digits_digitChars n.toNat)
      rwa [hvalue] at hunsigned

theorem magnitude_scientific (plus : Bool) {n : Nat} (h : n ≠ 0) (power : Int) :
    Magnitude (scientific plus (digitChars n) (power + (digitChars n).length - 1))
      (n * 10 ^ power) := by
  have hdigits := digits_digitChars n
  have hscale := exponent_signedChars plus (power + (digitChars n).length - 1)
  have hbefore := whole_take h one_ne_zero
  have hlength : ((digitChars n).drop 1).length + 1 = (digitChars n).length := by
    rw [List.length_drop, Nat.sub_add_cancel (List.length_pos_iff.2 hdigits.nonempty)]
  unfold scientific
  dsimp only
  split
  · rename_i hothers
    rw [List.isEmpty_iff] at hothers
    have hexponent := Magnitude.exponent hbefore hscale
    have hall : (digitChars n).take 1 = digitChars n := by
      rw [← List.append_nil (List.take 1 _), ← hothers, List.take_append_drop]
    rw [hothers, List.length_nil] at hlength
    rw [hall, ofDigitChars_digitChars, ← hlength] at hexponent
    rw [hall, List.append_nil, ← hlength]
    simpa using hexponent
  · rename_i hothers
    have hbehind : Digits ((digitChars n).drop 1) :=
      hdigits.of_subset (mt List.isEmpty_iff.2 hothers) (List.drop_subset 1 _)
    have hboth := Magnitude.both hbefore hbehind hscale
    have hpower : power + ((digitChars n).length : Int) - 1 - ((digitChars n).drop 1).length =
        power := by
      omega
    rwa [List.take_append_drop, ofDigitChars_digitChars, hpower] at hboth

theorem magnitude_positional {n : Nat} {power : Int} (h : n = 0 → power = 0) :
    Magnitude (positional (digitChars n) power) (n * 10 ^ power) := by
  unfold positional
  split
  · rename_i hpower
    obtain ⟨places, rfl⟩ := Int.eq_ofNat_of_zero_le hpower
    rw [Int.toNat_natCast]
    have hwhole : Whole (digitChars n ++ List.replicate places '0') := by
      by_cases hn : n = 0
      · rw [hn, Int.natCast_eq_zero.1 (h hn)]
        exact whole_zero
      · exact whole_append hn fun c hc => (List.mem_replicate.1 hc).2 ▸ by decide
    have hvalue : Nat.ofDigitChars 10 (digitChars n ++ List.replicate places '0' ++ ['0']) 0 =
        n * 10 ^ places * 10 := by
      rw [Nat.ofDigitChars_append, Nat.ofDigitChars_append, ofDigitChars_digitChars,
        Nat.ofDigitChars_replicate_zero, Nat.ofDigitChars_cons, Nat.ofDigitChars_nil,
        Nat.sub_self, Nat.add_zero]
      ring
    have hpoint := Magnitude.point hwhole whole_zero.toDigits
    have hnumber : ((n * 10 ^ places * 10 : Nat) : ℚ) * 10 ^ (-(['0'].length : Int)) =
        n * 10 ^ (places : Int) := by
      push_cast
      rw [List.length_singleton, Nat.cast_one, zpow_neg_one, zpow_natCast,
        mul_inv_cancel_right₀ (by norm_num)]
    rwa [hvalue, hnumber] at hpoint
  · rename_i hpower
    obtain ⟨places, rfl⟩ := Int.exists_eq_neg_ofNat (Int.le_of_not_le hpower)
    have hn : n ≠ 0 := fun hn => hpower (h hn).ge
    have hdigits := digits_digitChars n
    have hplaces : places ≠ 0 := by
      rintro rfl
      exact hpower le_rfl
    rw [neg_neg, Int.toNat_natCast]
    dsimp only
    -- The zeros in front leave one digit at least before the point.
    generalize hpadded : List.replicate (places + 1 - (digitChars n).length) '0' ++ digitChars n =
      padded
    have hlength : places < padded.length := by
      rw [← hpadded, List.length_append, List.length_replicate]
      omega
    have hvalue : Nat.ofDigitChars 10 padded 0 = n := by
      rw [← hpadded, Nat.ofDigitChars_append, Nat.ofDigitChars_replicate_zero, Nat.mul_zero,
        ofDigitChars_digitChars]
    have hall : ∀ c ∈ padded, c.isDigit := by
      intro c hc
      rw [← hpadded, List.mem_append] at hc
      rcases hc with hc | hc
      · exact (List.mem_replicate.1 hc).2 ▸ by decide
      · exact hdigits.digits c hc
    have hwhole : Whole (padded.take (padded.length - places)) := by
      by_cases hlong : places < (digitChars n).length
      · rw [Nat.sub_eq_zero_of_le hlong, List.replicate_zero, List.nil_append] at hpadded
        rw [← hpadded]
        exact whole_take hn (by omega)
      · have hone : padded.length - places = 1 := by
          rw [← hpadded, List.length_append, List.length_replicate]
          omega
        rw [hone, ← hpadded, Nat.succ_sub (Nat.le_of_not_lt hlong), List.replicate_succ]
        exact whole_zero
    have hbehind : Digits (padded.drop (padded.length - places)) := by
      refine ⟨?_, fun c hc => hall c (List.mem_of_mem_drop hc)⟩
      rw [ne_eq, List.drop_eq_nil_iff]
      omega
    have hpoint := Magnitude.point hwhole hbehind
    rw [List.take_append_drop, hvalue, List.length_drop, Nat.sub_sub_self hlength.le] at hpoint
    exact hpoint

/-- A double prints as a number that rounds to it. -/
theorem writes_finiteText (layout : Layout) (x : Double) :
    x.Writes (x.finiteText layout).toList := by
  refine ⟨_, (x.shortest layout.tie).value, String.toList_ofList, ?_, x.contains_shortest _⟩
  have hzero : (x.shortest layout.tie).digits = 0 → (x.shortest layout.tie).power = 0 := by
    intro hdigits
    by_cases h : x.significand = 0
    · rw [shortest, if_pos h]
    · exact absurd hdigits (x.digits_shortest_ne_zero layout.tie h)
  unfold magnitudeChars Decimal.value
  dsimp only
  split
  · exact magnitude_positional hzero
  · rename_i hlayout
    exact magnitude_scientific _ (fun h => hlayout (.inl h)) _

end GraphSchema.Double
