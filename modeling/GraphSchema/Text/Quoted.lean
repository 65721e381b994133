/-!
# Quoted strings

A quoted string stands between double quotes. The quote, the backslash, line ends and tabs have
short escapes, every other control character is written with the four hexadecimal digits of its
code, and all else stands for itself.
-/

namespace GraphSchema.Text

/-- The control characters of Unicode, category `Cc`. -/
def isControl (c : Char) : Bool :=
  c.toNat < 0x20 || (0x7F ≤ c.toNat && c.toNat ≤ 0x9F)

def hexDigit (n : Nat) : Char :=
  if n < 10 then Char.ofNat (48 + n) else Char.ofNat (55 + n)

/-- The four hexadecimal digits, in capitals, of a number below 65536. -/
def hex4 (n : Nat) : List Char :=
  [hexDigit (n / 4096 % 16), hexDigit (n / 256 % 16), hexDigit (n / 16 % 16), hexDigit (n % 16)]

def quoteChar (c : Char) : List Char :=
  if c = '\r' then ['\\', 'r']
  else if c = '\n' then ['\\', 'n']
  else if c = '\t' then ['\\', 't']
  else if c = '\\' then ['\\', '\\']
  else if c = '"' then ['\\', '"']
  else if isControl c then '\\' :: 'u' :: hex4 c.toNat
  else [c]

/-- The text between double quotes, with its escapes. -/
def quote (text : String) : String :=
  String.ofList ('"' :: text.toList.flatMap quoteChar ++ ['"'])

end GraphSchema.Text
