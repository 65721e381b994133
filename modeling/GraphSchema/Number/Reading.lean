import GraphSchema.Number.Double

/-!
# Reading decimals

Decimal text as a double: digits with an optional fraction and exponent, or the words `inf` and
`nan`, each with an optional sign.
-/

namespace GraphSchema.Double

def digitValue? (c : Char) : Option Nat :=
  if c.isDigit then some (c.toNat - 48) else none

/-- The number that decimal digits stand for. -/
def ofDigits (digits : List Char) : Nat :=
  digits.foldl (fun n c => 10 * n + (c.toNat - 48)) 0

/-- A sign, if there is one, and the rest of the text. The flag is set for a minus. -/
def takeSign : List Char → Bool × List Char
  | '-' :: rest => (true, rest)
  | '+' :: rest => (false, rest)
  | text => (false, text)

/-- The value of an exponent, which is the whole text. -/
def readExponent? (text : List Char) : Option Int :=
  let (negative, digits) := takeSign text
  if digits.isEmpty || !digits.all Char.isDigit then none
  else some (if negative then -(ofDigits digits : Int) else ofDigits digits)

/-- What follows the digits of a number: nothing or an exponent. -/
def readTail? : List Char → Option Int
  | [] => some 0
  | c :: rest => if c = 'e' ∨ c = 'E' then readExponent? rest else none

/-- An unsigned decimal as its digits and the power of ten to scale them by. -/
def readMagnitude? (text : List Char) : Option (Nat × Int) := do
  let whole := text.takeWhile Char.isDigit
  let rest := text.dropWhile Char.isDigit
  let (fraction, tail) :=
    match rest with
    | '.' :: after => (after.takeWhile Char.isDigit, after.dropWhile Char.isDigit)
    | _ => ([], rest)
  if whole.isEmpty && fraction.isEmpty then none
  else
    let power ← readTail? tail
    some (ofDigits (whole ++ fraction), power - fraction.length)

/-- The double nearest to the decimal text. -/
def ofText? (text : List Char) : Option Double :=
  let (negative, rest) := takeSign text
  if rest = ['i', 'n', 'f'] then some (infinity negative)
  else if rest = ['n', 'a', 'n'] then some nan
  else (readMagnitude? rest).map fun (digits, power) => ofDecimal negative digits power

end GraphSchema.Double
