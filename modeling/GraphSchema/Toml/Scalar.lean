import GraphSchema.Toml.Datetime

/-!
# Scalars

The values of TOML that are written without quotes: booleans, integers, floats, dates and times.
Underscores may stand between digits. A number that cannot be had is a scalar all the same; it
does harm only where it is looked at.
-/

namespace GraphSchema.Toml

inductive Scalar where
  | boolean (value : Bool)
  /-- An integer; none if what is written has the form of a number and is none. -/
  | integer (value : Option Int)
  /-- A float; none if the number is beyond the range of doubles. -/
  | float (value : Option Double)
  | datetime (value : Datetime)

/-! ## Digits -/

/-- The digits of a text in which single underscores may stand between digits. -/
def digits? (isDigit : Char → Bool) : List Char → Option (List Char)
  | [] => none
  | [c] => if isDigit c then some [c] else none
  | c :: '_' :: rest => if isDigit c then (digits? isDigit rest).map (c :: ·) else none
  | c :: rest => if isDigit c then (digits? isDigit rest).map (c :: ·) else none

def digitOf (c : Char) : Nat :=
  if c.isDigit then c.toNat - 48
  else if c.isUpper then c.toNat - 55
  else c.toNat - 87

def isHex (c : Char) : Bool :=
  c.isDigit || ('a' ≤ c && c ≤ 'f') || ('A' ≤ c && c ≤ 'F')

def ofBase (base : Nat) (digits : List Char) : Nat :=
  digits.foldl (fun n c => base * n + digitOf c) 0

/-- Decimal digits with no zero in front, unless zero is all there is. -/
def plainDigits? (text : List Char) : Option (List Char) := do
  let digits ← digits? Char.isDigit text
  if 1 < text.length ∧ text.head? = some '0' then none else some digits

def isDigitPart (c : Char) : Bool := c.isDigit || c == '_'

/-! ## Numbers -/

def signed (negative : Bool) (n : Nat) : Int := if negative then -(n : Int) else n

/-- The exponent that is the whole text. -/
def exponent? : List Char → Option Int
  | '-' :: rest => (digits? Char.isDigit rest).map fun ds => -(Double.ofDigits ds : Int)
  | '+' :: rest => (digits? Char.isDigit rest).map fun ds => (Double.ofDigits ds : Int)
  | text => (digits? Char.isDigit text).map fun ds => (Double.ofDigits ds : Int)

/-- A double, unless rounding made it infinite. -/
def inRange (x : Double) : Option Double := if x.isFinite then some x else none

def float (negative : Bool) (whole fraction : List Char) (power : Int) : Scalar :=
  .float (inRange (.ofDecimal negative (Double.ofDigits (whole ++ fraction))
    (power - fraction.length)))

def isExponentMark (c : Char) : Bool := c == 'e' || c == 'E'

/-- A decimal number after its sign. -/
def decimal? (negative : Bool) (text : List Char) : Option Scalar := do
  let whole ← plainDigits? (text.takeWhile isDigitPart)
  match text.dropWhile isDigitPart with
  | [] => some (.integer (some (signed negative (Double.ofDigits whole))))
  | '.' :: rest =>
    let fraction ← digits? Char.isDigit (rest.takeWhile isDigitPart)
    match rest.dropWhile isDigitPart with
    | [] => some (float negative whole fraction 0)
    | c :: rest =>
      if isExponentMark c then
        let power ← exponent? rest
        some (float negative whole fraction power)
      else none
  | c :: rest =>
    if isExponentMark c then
      let power ← exponent? rest
      some (float negative whole [] power)
    else none

/-- Whether every underscore stands between two digits, which may be those of any base. -/
def areSpaced : List Char → Bool
  | a :: '_' :: c :: rest => isHex a && isHex c && areSpaced (c :: rest)
  | ['_'] => false
  | [_, '_'] => false
  | _ :: rest => areSpaced rest
  | [] => true

/-- Characters that keep a text from being taken for an integer. -/
def isFloatMark (c : Char) : Bool := c == ' ' || c == '.' || isExponentMark c

/-- Whether a text passes for an integer at first sight: digits with an underscore after them, and
then what may be no digits at all. -/
def seemsInteger (text : List Char) : Bool :=
  let rest := text.dropWhile Char.isDigit
  text.head? != some '0' && text.length != rest.length && rest.head? == some '_' &&
    !rest.any isFloatMark && areSpaced text

/-- What may follow a sign. -/
def number? (negative : Bool) (text : List Char) : Option Scalar :=
  if text = ['i', 'n', 'f'] then some (.float (some (Double.infinity negative)))
  else if text = ['n', 'a', 'n'] then some (.float (some Double.nan))
  else
    match decimal? negative text with
    | some scalar => some scalar
    | none => if seemsInteger text then some (.integer none) else none

/-- An integer with the digits of a base after its mark; no digits are no number. -/
def based? (base : Nat) (isDigit : Char → Bool) : List Char → Option Scalar
  | [] => some (.integer none)
  | text => (digits? isDigit text).map fun ds => .integer (some (ofBase base ds))

def isOctal (c : Char) : Bool := '0' ≤ c && c ≤ '7'

def isBinary (c : Char) : Bool := c == '0' || c == '1'

/-- Whether the text begins like a date or a time. -/
def looksDated (text : List Char) : Bool :=
  match text.dropWhile Char.isDigit with
  | c :: _ => (text.head?.map Char.isDigit).getD false && (c == '-' || c == ':')
  | [] => false

/-- The scalar that is the whole text. -/
def Scalar.read? : List Char → Option Scalar
  | ['t', 'r', 'u', 'e'] => some (.boolean true)
  | ['f', 'a', 'l', 's', 'e'] => some (.boolean false)
  | '0' :: 'x' :: rest => based? 16 isHex rest
  | '0' :: 'o' :: rest => based? 8 isOctal rest
  | '0' :: 'b' :: rest => based? 2 isBinary rest
  | '-' :: rest => number? true rest
  | '+' :: rest => number? false rest
  | text => if looksDated text then (Datetime.read? text).map .datetime else number? false text

end GraphSchema.Toml
