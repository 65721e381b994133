/-!
# Doubles

A double is an IEEE 754 binary64 word. It is kept as its bits; a finite one has the exact value
`significand * 2 ^ exponent`, with a sign. Reading a decimal rounds to the nearest double, to the
even one when two are equally near.
-/

namespace GraphSchema

structure Double where
  bits : UInt64
  deriving DecidableEq, Repr

namespace Double

/-! ## The fields of a word -/

def isNegative (x : Double) : Bool := Nat.pow 2 63 ≤ x.bits.toNat

def exponentField (x : Double) : Nat := x.bits.toNat / Nat.pow 2 52 % 2048

def fraction (x : Double) : Nat := x.bits.toNat % Nat.pow 2 52

def isFinite (x : Double) : Bool := x.exponentField != 2047

def isNaN (x : Double) : Bool := x.exponentField == 2047 && x.fraction != 0

def significand (x : Double) : Nat :=
  if x.exponentField = 0 then x.fraction else Nat.pow 2 52 + x.fraction

def exponent (x : Double) : Int :=
  if x.exponentField = 0 then -1074 else (x.exponentField : Int) - 1075

def isZero (x : Double) : Bool := x.isFinite && x.significand == 0

/-- Equality of numbers: a NaN differs from itself, and the two zeros are equal. -/
def equal (x y : Double) : Bool :=
  !x.isNaN && !y.isNaN && (x.bits == y.bits || (x.isZero && y.isZero))

instance : BEq Double := ⟨equal⟩

/-! ## Special values -/

def ofNat64 (negative : Bool) (bits : Nat) : Double :=
  ⟨UInt64.ofNat (bits + if negative then Nat.pow 2 63 else 0)⟩

def infinity (negative : Bool) : Double := ofNat64 negative (2047 * Nat.pow 2 52)

def nan : Double := ofNat64 false (2047 * Nat.pow 2 52 + Nat.pow 2 51)

/-! ## Reading a decimal -/

/-- The integer nearest to `num / den`, the even one on a tie. -/
def roundEven (num den : Nat) : Nat :=
  let q := num / den
  let r := num % den
  if 2 * r < den then q
  else if den < 2 * r then q + 1
  else q + q % 2

/-- How many decimal digits a number has; zero has none. -/
def decimalLength (n : Nat) : Nat :=
  if h : n = 0 then 0 else decimalLength (n / 10) + 1
  termination_by n
  decreasing_by omega

/-- The magnitude bits of the double nearest to `num / den`, which is not zero. -/
def nearestBits (num den : Nat) : Nat :=
  let scale : Int := (num.log2 : Int) - den.log2
  let top :=
    if den * Nat.pow 2 scale.toNat ≤ num * Nat.pow 2 (-scale).toNat then scale - 52 else scale - 53
  let unit : Int := if top < -1074 then -1074 else top
  let rounded := roundEven (num * Nat.pow 2 (-unit).toNat) (den * Nat.pow 2 unit.toNat)
  let bits := (unit + 1074).toNat * Nat.pow 2 52 + rounded
  if 2047 * Nat.pow 2 52 ≤ bits then 2047 * Nat.pow 2 52 else bits

/-- The double nearest to `digits * 10 ^ power`. Beyond the bounds on the number's size it is
infinite or zero whatever its digits are. -/
def ofDecimal (negative : Bool) (digits : Nat) (power : Int) : Double :=
  let size := power + decimalLength digits
  if digits = 0 ∨ size < -330 then ofNat64 negative 0
  else if 310 < size then infinity negative
  else ofNat64 negative (nearestBits (digits * Nat.pow 10 power.toNat) (Nat.pow 10 (-power).toNat))

end Double

end GraphSchema
