import GraphSchema.Number.Double

/-!
# Shortest decimals

A finite double is written with the fewest decimal digits that read back as it, and with the
nearest such digits. How the digits are laid out is the writer's choice, given by a `Layout`.
-/

namespace GraphSchema.Double

/-- The decimal `digits * 10 ^ power`. -/
structure Decimal where
  digits : Nat
  power : Int
  deriving DecidableEq, Repr

/-- What to do when the value lies halfway between two equally short decimals. -/
inductive Tie where
  | up
  | even
  deriving DecidableEq, Repr

/-! ## Digits -/

/-- The reals that round to a double, in units of `2 ^ unit`: the double is `value`, the bounds
are `low` and `high`, and they round to it too when `closed` holds. -/
structure Interval where
  low : Nat
  value : Nat
  high : Nat
  unit : Int
  closed : Bool

/-- The lower neighbour is nearer at a power of two. -/
def interval (x : Double) : Interval :=
  let m := x.significand
  let below := if x.fraction = 0 ∧ 1 < x.exponentField then 1 else 2
  ⟨4 * m - below, 4 * m, 4 * m + 2, x.exponent - 2, m % 2 = 0⟩

namespace Interval

/-- The two factors that bring multiples of `10 ^ power` and of `2 ^ unit` to one scale. -/
def scales (i : Interval) (power : Int) : Nat × Nat :=
  (Nat.pow 10 power.toNat * Nat.pow 2 (-i.unit).toNat,
    Nat.pow 2 i.unit.toNat * Nat.pow 10 (-power).toNat)

/-- Whether `digits * 10 ^ power` rounds to the double. -/
def holds (i : Interval) (digits : Nat) (power : Int) : Bool :=
  let (grid, unit) := i.scales power
  let point := digits * grid
  if i.closed then i.low * unit ≤ point && point ≤ i.high * unit
  else i.low * unit < point && point < i.high * unit

/-- The better of the value's two neighbours among the multiples of `10 ^ power`, if one of them
rounds to the double. -/
def onGrid? (tie : Tie) (i : Interval) (power : Int) : Option Nat :=
  let (grid, unit) := i.scales power
  let down := i.value * unit / grid
  let rest := i.value * unit % grid
  match i.holds down power, i.holds (down + 1) power with
  | false, false => none
  | true, false => some down
  | false, true => some (down + 1)
  | true, true =>
    if 2 * rest < grid then some down
    else if grid < 2 * rest then some (down + 1)
    else
      match tie with
      | .up => some (down + 1)
      | .even => some (down + down % 2)

/-- The power of ten of the value's leading digit. -/
def leadingPower (i : Interval) : Int :=
  let num := i.value * Nat.pow 2 i.unit.toNat
  let den := Nat.pow 2 (-i.unit).toNat
  if den ≤ num then (decimalLength (num / den) : Int) - 1
  else -(decimalLength ((den - 1) / num) : Int)

/-- Tries one digit more at a time. Seventeen always suffice; `fuel` counts the tries left. -/
def search (tie : Tie) (i : Interval) : Nat → Int → Decimal
  | 0, power => ⟨(i.onGrid? tie power).getD 0, power⟩
  | fuel + 1, power =>
    match i.onGrid? tie power with
    | some digits => ⟨digits, power⟩
    | none => search tie i fuel (power - 1)

end Interval

/-- Moves zeros at the end of the digits into the power. -/
def Decimal.strip (d : Decimal) : Decimal :=
  if h : d.digits ≠ 0 ∧ d.digits % 10 = 0 then
    strip ⟨d.digits / 10, d.power + 1⟩
  else
    d
  termination_by d.digits
  decreasing_by omega

/-- The shortest decimal of a finite double's magnitude. -/
def shortest (tie : Tie) (x : Double) : Decimal :=
  if x.significand = 0 then ⟨0, 0⟩
  else (x.interval.search tie 17 x.interval.leadingPower).strip

/-! ## Layout -/

/-- How digits are written: in positional form when the power of the leading digit is at least
`first` and below `below`, else with an exponent, whose plus sign may be written. -/
structure Layout where
  first : Int
  below : Int
  plus : Bool
  tie : Tie

def digitChars (n : Nat) : List Char := (Nat.repr n).toList

/-- Positional digits: at least one before the point and at least one after it. -/
def positional (digits : List Char) (power : Int) : List Char :=
  if 0 ≤ power then
    digits ++ List.replicate power.toNat '0' ++ ['.', '0']
  else
    let places := (-power).toNat
    let padded := List.replicate (places + 1 - digits.length) '0' ++ digits
    padded.take (padded.length - places) ++ '.' :: padded.drop (padded.length - places)

def signedChars (plus : Bool) (n : Int) : List Char :=
  if n < 0 then '-' :: digitChars (-n).toNat
  else if plus then '+' :: digitChars n.toNat
  else digitChars n.toNat

/-- One digit, a point and the others if there are any, and the exponent. -/
def scientific (plus : Bool) (digits : List Char) (leading : Int) : List Char :=
  let others := digits.drop 1
  digits.take 1 ++ (if others.isEmpty then [] else '.' :: others) ++ 'e' :: signedChars plus leading

def magnitudeChars (layout : Layout) (d : Decimal) : List Char :=
  let digits := digitChars d.digits
  let leading := d.power + digits.length - 1
  if d.digits = 0 ∨ (layout.first ≤ leading ∧ leading < layout.below) then positional digits d.power
  else scientific layout.plus digits leading

/-- The text of a finite double. -/
def finiteText (layout : Layout) (x : Double) : String :=
  String.ofList
    ((if x.isNegative then ['-'] else []) ++ magnitudeChars layout (x.shortest layout.tie))

end GraphSchema.Double
