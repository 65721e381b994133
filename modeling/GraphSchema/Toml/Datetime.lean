import GraphSchema.Number.Reading

/-!
# Dates and times

The dates and times of TOML, after RFC 3339: a date, a time, or both, and with both an offset. The
blank or letter between date and time is free when read and a `T` when written.
-/

namespace GraphSchema.Toml

structure Date where
  year : Nat
  month : Nat
  day : Nat
  deriving DecidableEq, Repr

structure Time where
  hour : Nat
  minute : Nat
  second : Nat
  nanosecond : Nat
  deriving DecidableEq, Repr

/-- Minutes east of universal time, or `Z` for none. -/
inductive Offset where
  | zulu
  | minutes (east : Int)
  deriving DecidableEq, Repr

structure Datetime where
  date : Option Date := none
  time : Option Time := none
  offset : Option Offset := none
  deriving DecidableEq, Repr

/-! ## Writing -/

/-- A number with zeros in front, at least `width` digits. -/
def padded (width n : Nat) : String :=
  let digits := (Nat.repr n).toList
  String.ofList (List.replicate (width - digits.length) '0' ++ digits)

def Date.text (d : Date) : String :=
  padded 4 d.year ++ "-" ++ padded 2 d.month ++ "-" ++ padded 2 d.day

/-- The fraction of a second without zeros at its end; nothing for a whole second. -/
def fractionText (nanosecond : Nat) : String :=
  if nanosecond = 0 then ""
  else
    let digits := (padded 9 nanosecond).toList
    "." ++ String.ofList (digits.reverse.dropWhile (· == '0')).reverse

def Time.text (t : Time) : String :=
  padded 2 t.hour ++ ":" ++ padded 2 t.minute ++ ":" ++ padded 2 t.second ++
    fractionText t.nanosecond

def Offset.text : Offset → String
  | zulu => "Z"
  | minutes east =>
    (if east < 0 then "-" else "+") ++ padded 2 (east.natAbs / 60) ++ ":" ++
      padded 2 (east.natAbs % 60)

def Datetime.text (d : Datetime) : String :=
  (d.date.map Date.text).getD "" ++
    (if d.date.isSome && d.time.isSome then "T" else "") ++
    (d.time.map Time.text).getD "" ++ (d.offset.map Offset.text).getD ""

/-! ## Reading -/

def isLeap (year : Nat) : Bool :=
  year % 4 == 0 && (year % 100 != 0 || year % 400 == 0)

def daysIn (year month : Nat) : Nat :=
  if month = 2 then (if isLeap year then 29 else 28)
  else if month ∈ [4, 6, 9, 11] then 30
  else 31

/-- A number of exactly `count` digits at the start of the text. -/
def takeDigits? (count : Nat) (text : List Char) : Option (Nat × List Char) :=
  let digits := text.take count
  if digits.length = count ∧ digits.all Char.isDigit then
    some (Double.ofDigits digits, text.drop count)
  else
    none

def takeChar? (c : Char) : List Char → Option (List Char)
  | d :: rest => if d = c then some rest else none
  | [] => none

def takeDate? (text : List Char) : Option (Date × List Char) := do
  let (year, text) ← takeDigits? 4 text
  let text ← takeChar? '-' text
  let (month, text) ← takeDigits? 2 text
  let text ← takeChar? '-' text
  let (day, text) ← takeDigits? 2 text
  if 1 ≤ month ∧ month ≤ 12 ∧ 1 ≤ day ∧ day ≤ daysIn year month then
    some (⟨year, month, day⟩, text)
  else
    none

/-- A fraction of a second in nanoseconds; further digits are dropped. -/
def takeFraction? : List Char → Option (Nat × List Char)
  | '.' :: rest =>
    let digits := rest.takeWhile Char.isDigit
    if digits.isEmpty then none
    else
      let nine := digits.take 9 ++ List.replicate (9 - digits.length) '0'
      some (Double.ofDigits nine, rest.dropWhile Char.isDigit)
  | text => some (0, text)

/-- The seconds of a time, which may be left out. -/
def takeSeconds? : List Char → Option (Nat × Nat × List Char)
  | ':' :: rest => do
    let (second, rest) ← takeDigits? 2 rest
    let (nanosecond, rest) ← takeFraction? rest
    some (second, nanosecond, rest)
  | text => some (0, 0, text)

def takeTime? (text : List Char) : Option (Time × List Char) := do
  let (hour, text) ← takeDigits? 2 text
  let text ← takeChar? ':' text
  let (minute, text) ← takeDigits? 2 text
  let (second, nanosecond, text) ← takeSeconds? text
  if hour ≤ 23 ∧ minute ≤ 59 ∧ second ≤ 60 then
    some (⟨hour, minute, second, nanosecond⟩, text)
  else
    none

/-- Hours and minutes of an offset, which are the whole text. -/
def readMinutes? (text : List Char) : Option Nat := do
  let (hours, text) ← takeDigits? 2 text
  let text ← takeChar? ':' text
  let (minutes, text) ← takeDigits? 2 text
  if text.isEmpty ∧ hours ≤ 23 ∧ minutes ≤ 59 then some (60 * hours + minutes) else none

/-- The offset that is the whole text, or none for no text. -/
def readOffset? : List Char → Option (Option Offset)
  | [] => some none
  | ['Z'] => some (some .zulu)
  | ['z'] => some (some .zulu)
  | '+' :: rest => (readMinutes? rest).map fun n => some (.minutes n)
  | '-' :: rest => (readMinutes? rest).map fun n => some (.minutes (-(n : Int)))
  | _ => none

/-- What follows a date: nothing, or a time with an optional offset. -/
def readAfterDate? (date : Date) : List Char → Option Datetime
  | [] => some { date := some date }
  | c :: rest => do
    if c = 'T' ∨ c = 't' ∨ c = ' ' then
      let (time, rest) ← takeTime? rest
      let offset ← readOffset? rest
      some ⟨some date, some time, offset⟩
    else
      none

/-- The date or time that is the whole text. -/
def Datetime.read? (text : List Char) : Option Datetime :=
  if text[2]? = some ':' then do
    let (time, rest) ← takeTime? text
    if rest.isEmpty then some { time := some time } else none
  else do
    let (date, rest) ← takeDate? text
    readAfterDate? date rest

end GraphSchema.Toml
