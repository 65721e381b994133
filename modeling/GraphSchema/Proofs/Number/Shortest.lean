import GraphSchema.Number.Shortest
import Mathlib.Algebra.Order.Field.Power
import Mathlib.Data.Rat.Cast.Order
import Mathlib.Tactic.Linarith
import Mathlib.Tactic.Positivity
import Mathlib.Tactic.Ring

/-!
# Seventeen digits suffice

The search for the shortest decimal of a double always ends at a decimal that rounds to the double:
with seventeen digits behind the leading one the grid is finer than the gap to the next double.
-/

namespace GraphSchema.Double

/-! ## Lengths -/

theorem lt_pow_decimalLength (n : Nat) : n < 10 ^ decimalLength n := by
  induction n using decimalLength.induct with
  | case1 => simp [decimalLength]
  | case2 n h ih =>
    rw [decimalLength, dif_neg h, Nat.pow_succ]
    omega

theorem pow_decimalLength_le {n : Nat} (h : n ≠ 0) : 10 ^ (decimalLength n - 1) ≤ n := by
  induction n using decimalLength.induct with
  | case1 => exact absurd rfl h
  | case2 n hn ih =>
    rw [decimalLength, dif_neg hn, Nat.add_sub_cancel]
    by_cases hone : n / 10 = 0
    · rw [hone]
      simp [decimalLength]
      omega
    · have hlength : decimalLength (n / 10) = decimalLength (n / 10) - 1 + 1 := by
        rw [decimalLength, dif_neg hone]
        omega
      have hrest := ih hone
      rw [hlength, Nat.pow_succ]
      omega

/-- The number that a decimal stands for. -/
def Decimal.value (d : Decimal) : ℚ := d.digits * 10 ^ d.power

theorem Decimal.value_strip (d : Decimal) : d.strip.value = d.value := by
  induction d using Decimal.strip.induct with
  | case1 d h ih =>
    have hten : ((d.digits / 10 : Nat) : ℚ) * 10 = d.digits := by
      have := Nat.div_mul_cancel (Nat.dvd_of_mod_eq_zero h.2)
      exact_mod_cast this
    rw [Decimal.strip, dif_pos h, ih, value, value, zpow_add_one₀ (by norm_num), ← hten]
    ring
  | case2 d h => rw [Decimal.strip, dif_neg h]

namespace Interval

/-! ## The numbers of an interval -/

/-- The number rounds to the double. -/
def Contains (i : Interval) (r : ℚ) : Prop :=
  if i.closed then i.low * 2 ^ i.unit ≤ r ∧ r ≤ i.high * 2 ^ i.unit
  else i.low * 2 ^ i.unit < r ∧ r < i.high * 2 ^ i.unit

theorem pow_toNat {b : ℚ} (hb : b ≠ 0) (n : Int) : b ^ n.toNat = b ^ n * b ^ (-n).toNat := by
  rw [← zpow_natCast, ← zpow_natCast, ← zpow_add₀ hb]
  congr 1
  omega

/-- The scales are those of the grid and of the interval, times one factor. -/
theorem exists_scale (i : Interval) (power : Int) :
    ∃ c : ℚ, 0 < c ∧ ((i.scales power).1 : ℚ) = 10 ^ power * c ∧
      ((i.scales power).2 : ℚ) = 2 ^ i.unit * c := by
  refine ⟨2 ^ (-i.unit).toNat * 10 ^ (-power).toNat, by positivity, ?_, ?_⟩
  · simp only [scales, Nat.pow_eq, Nat.cast_mul, Nat.cast_pow, Nat.cast_ofNat]
    rw [pow_toNat (by norm_num) power]
    ring
  · simp only [scales, Nat.pow_eq, Nat.cast_mul, Nat.cast_pow, Nat.cast_ofNat]
    rw [pow_toNat (by norm_num) i.unit]
    ring

theorem holds_iff {i : Interval} {digits : Nat} {power : Int} :
    i.holds digits power = true ↔ i.Contains (digits * 10 ^ power) := by
  obtain ⟨c, hc, hgrid, hunit⟩ := i.exists_scale power
  have hcross : ∀ n : Nat, (n : ℚ) * 2 ^ i.unit * c = (n * (i.scales power).2 : Nat) := by
    intro n
    rw [Nat.cast_mul, hunit, mul_assoc]
  have hpoint : (digits : ℚ) * 10 ^ power * c = (digits * (i.scales power).1 : Nat) := by
    rw [Nat.cast_mul, hgrid, mul_assoc]
  have hle : ∀ {a b : ℚ} {m n : Nat}, a * c = m → b * c = n → (a ≤ b ↔ m ≤ n) := by
    intro a b m n ha hb
    rw [← mul_le_mul_iff_of_pos_right hc, ha, hb, Nat.cast_le]
  have hlt : ∀ {a b : ℚ} {m n : Nat}, a * c = m → b * c = n → (a < b ↔ m < n) :=
    fun ha hb => lt_iff_lt_of_le_iff_le (hle hb ha)
  unfold Contains
  cases hclosed : i.closed with
  | true =>
    rw [if_pos rfl, hle (hcross i.low) hpoint, hle hpoint (hcross i.high)]
    simp [holds, hclosed]
  | false =>
    rw [if_neg Bool.false_ne_true, hlt (hcross i.low) hpoint, hlt hpoint (hcross i.high)]
    simp [holds, hclosed]

theorem scales_pos (i : Interval) (power : Int) :
    0 < (i.scales power).1 ∧ 0 < (i.scales power).2 := by
  simp only [scales, Nat.pow_eq]
  exact ⟨by positivity, by positivity⟩

/-! ## The search -/

theorem holds_of_onGrid? {tie : Tie} {i : Interval} {power : Int} {digits : Nat}
    (h : i.onGrid? tie power = some digits) : i.holds digits power = true := by
  unfold onGrid? at h
  dsimp only at h
  generalize i.value * (i.scales power).2 / (i.scales power).1 = down at h
  split at h
  · cases h
  · rename_i hdown hup
    cases h
    exact hdown
  · rename_i hdown hup
    cases h
    exact hup
  · rename_i hdown hup
    split_ifs at h
    · cases h
      exact hdown
    · cases h
      exact hup
    · cases tie with
      | up =>
        cases h
        exact hup
      | even =>
        cases h
        rcases Nat.mod_two_eq_zero_or_one down with hmod | hmod
        · rwa [hmod]
        · rwa [hmod]

theorem holds_of_lt {i : Interval} {digits : Nat} {power : Int}
    (hlow : i.low * (i.scales power).2 < digits * (i.scales power).1)
    (hhigh : digits * (i.scales power).1 < i.high * (i.scales power).2) :
    i.holds digits power = true := by
  cases hclosed : i.closed with
  | true => simp [holds, hclosed, hlow.le, hhigh.le]
  | false => simp [holds, hclosed, hlow, hhigh]

/-- A grid finer than the gap to the next double has a point that rounds to the double. -/
theorem onGrid?_isSome {tie : Tie} {i : Interval} {power : Int} (hlow : i.low < i.value)
    (hhigh : i.high = i.value + 2) (hfine : (10 : ℚ) ^ power < 2 * 2 ^ i.unit) :
    (i.onGrid? tie power).isSome := by
  obtain ⟨c, hc, hgrid, hunit⟩ := i.exists_scale power
  obtain ⟨hgridpos, hunitpos⟩ := i.scales_pos power
  have hsteps : (i.scales power).1 < 2 * (i.scales power).2 := by
    have hscaled := mul_lt_mul_of_pos_right hfine hc
    rw [mul_assoc, ← hgrid, ← hunit] at hscaled
    exact_mod_cast hscaled
  -- The value's upper neighbour on the grid lies between the value and the upper bound.
  have hup : i.holds (i.value * (i.scales power).2 / (i.scales power).1 + 1) power = true := by
    have hbelow := Nat.mul_lt_mul_of_pos_right hlow hunitpos
    have habove := Nat.lt_mul_div_succ (i.value * (i.scales power).2) hgridpos
    have hfloor := Nat.div_mul_le_self (i.value * (i.scales power).2) (i.scales power).1
    rw [Nat.mul_comm (i.scales power).1] at habove
    refine holds_of_lt (hbelow.trans habove) ?_
    rw [Nat.add_mul, Nat.one_mul, hhigh, Nat.add_mul]
    omega
  unfold onGrid?
  dsimp only
  rw [hup]
  split
  · rename_i hnone
    cases hnone
  · rfl
  · rfl
  · split_ifs
    · rfl
    · rfl
    · cases tie <;> rfl

theorem holds_search {tie : Tie} {i : Interval} (fuel : Nat) (power : Int)
    (h : (i.onGrid? tie (power - fuel)).isSome) :
    i.holds (i.search tie fuel power).digits (i.search tie fuel power).power = true := by
  induction fuel generalizing power with
  | zero =>
    rw [Nat.cast_zero, sub_zero] at h
    obtain ⟨digits, hdigits⟩ := Option.isSome_iff_exists.1 h
    rw [search, hdigits]
    exact holds_of_onGrid? hdigits
  | succ fuel ih =>
    rw [search]
    cases hgrid : i.onGrid? tie power with
    | some digits => exact holds_of_onGrid? hgrid
    | none =>
      refine ih (power - 1) ?_
      rwa [sub_sub, add_comm 1, ← Nat.cast_succ]

/-- The leading power is not above the value. -/
theorem pow_leadingPower_le {i : Interval} (h : i.value ≠ 0) :
    (10 : ℚ) ^ i.leadingPower ≤ i.value * 2 ^ i.unit := by
  have hden : 0 < 2 ^ (-i.unit).toNat := by positivity
  have hvalue : (i.value : ℚ) * 2 ^ i.unit * (2 ^ (-i.unit).toNat : Nat) =
      (i.value * 2 ^ i.unit.toNat : Nat) := by
    push_cast
    rw [pow_toNat two_ne_zero i.unit, mul_assoc]
  have hnum : 0 < i.value * 2 ^ i.unit.toNat := by positivity
  unfold leadingPower
  dsimp only [Nat.pow_eq]
  generalize 2 ^ (-i.unit).toNat = den at hden hvalue
  generalize i.value * 2 ^ i.unit.toNat = num at hnum hvalue
  have hden' : (0 : ℚ) < den := by exact_mod_cast hden
  rw [← mul_le_mul_iff_of_pos_right hden', hvalue]
  split
  · rename_i hle
    have hquotient : num / den ≠ 0 := (Nat.div_pos hle hden).ne'
    have hlength : decimalLength (num / den) ≠ 0 := by
      rw [decimalLength, dif_neg hquotient]
      exact Nat.succ_ne_zero _
    have hpow := Nat.mul_le_of_le_div _ _ _ (pow_decimalLength_le hquotient)
    rw [← Nat.cast_pred (Nat.pos_of_ne_zero hlength), zpow_natCast]
    exact_mod_cast hpow
  · rename_i hlt
    have hpow := Nat.lt_mul_of_div_lt (lt_pow_decimalLength ((den - 1) / num)) hnum
    rw [Nat.mul_comm] at hpow
    have hle : den ≤ num * 10 ^ decimalLength ((den - 1) / num) := by omega
    rw [zpow_neg, zpow_natCast, inv_mul_le_iff₀ (by positivity), mul_comm]
    exact_mod_cast hle

end Interval

/-! ## The shortest decimal -/

theorem significand_lt (x : Double) : x.significand < 2 ^ 53 := by
  have hfraction : x.fraction < 2 ^ 52 := Nat.mod_lt _ (by decide)
  unfold significand
  simp only [Nat.pow_eq]
  split
  · omega
  · omega

theorem low_interval {x : Double} (h : x.significand ≠ 0) :
    0 < x.interval.low ∧ x.interval.low < x.interval.value := by
  unfold interval
  dsimp only
  split <;> omega

/-- The decimal of a double rounds to it. -/
theorem contains_shortest (tie : Tie) (x : Double) :
    x.interval.Contains (x.shortest tie).value := by
  by_cases h : x.significand = 0
  · have heven : x.interval.closed = true := by simp [interval, h]
    have hlow : x.interval.low = 0 := by simp [interval, h]
    rw [shortest, if_pos h, Interval.Contains, if_pos heven, hlow]
    simp only [Decimal.value, Nat.cast_zero, zero_mul]
    exact ⟨le_rfl, by positivity⟩
  · rw [shortest, if_neg h, Decimal.value_strip]
    refine Interval.holds_iff.1 (Interval.holds_search 17 _ ?_)
    refine Interval.onGrid?_isSome (low_interval h).2 rfl ?_
    have hvalue : x.interval.value ≠ 0 := by
      have := low_interval h
      omega
    have hbound : (x.interval.value : ℚ) < 2 ^ 55 := by
      have hsignificand := x.significand_lt
      have : x.interval.value < 2 ^ 55 := by
        simp only [interval]
        omega
      exact_mod_cast this
    have hunit : (0 : ℚ) < 2 ^ x.interval.unit := by positivity
    have hleading := Interval.pow_leadingPower_le hvalue
    rw [zpow_sub₀ (by norm_num), div_lt_iff₀ (by positivity)]
    calc (10 : ℚ) ^ x.interval.leadingPower
        ≤ x.interval.value * 2 ^ x.interval.unit := hleading
      _ < 2 ^ 55 * 2 ^ x.interval.unit := mul_lt_mul_of_pos_right hbound hunit
      _ < 2 * 2 ^ x.interval.unit * 10 ^ ((17 : Nat) : Int) := by
        rw [zpow_natCast]
        linarith

theorem digits_shortest_ne_zero (tie : Tie) {x : Double} (h : x.significand ≠ 0) :
    (x.shortest tie).digits ≠ 0 := by
  intro hzero
  have hcontains := x.contains_shortest tie
  have hlow : (0 : ℚ) < x.interval.low := by exact_mod_cast (low_interval h).1
  have hpos : (0 : ℚ) < x.interval.low * 2 ^ x.interval.unit := by positivity
  rw [Decimal.value, hzero, Nat.cast_zero, zero_mul, Interval.Contains] at hcontains
  split at hcontains
  · exact absurd hcontains.1 hpos.not_ge
  · exact absurd hcontains.1 hpos.not_gt

end GraphSchema.Double
