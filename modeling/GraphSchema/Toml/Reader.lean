import GraphSchema.Text.Lines
import GraphSchema.Toml.Value

/-!
# Reading a document

A text is read from left to right into statements. A reader that fails gives no reason: what is
no document is told apart from nothing else.
-/

namespace GraphSchema.Toml

/-- What is left of a text, and the offset in bytes at which it begins. -/
structure Cursor where
  offset : Nat
  rest : List Char

abbrev Reader := StateT Cursor Option

namespace Reader

def fail {α : Type} : Reader α := fun _ => none

def peek : Reader (List Char) := fun cursor => some (cursor.rest, cursor)

def offset : Reader Nat := fun cursor => some (cursor.offset, cursor)

/-- Reads a number of characters that are known to be there. -/
def take (count : Nat) : Reader Unit := fun cursor =>
  some ((), ⟨cursor.offset + Text.byteSize (cursor.rest.take count), cursor.rest.drop count⟩)

def takeWhile (p : Char → Bool) : Reader (List Char) := do
  let chars := (← peek).takeWhile p
  take chars.length
  return chars

/-- Reads the given characters, or fails. -/
def expect (chars : List Char) : Reader Unit := do
  if chars.isPrefixOf (← peek) then take chars.length else fail

/-- Reads the given characters if they come next, and tells whether they did. -/
def accept (chars : List Char) : Reader Bool := do
  if chars.isPrefixOf (← peek) then
    take chars.length
    return true
  else
    return false

/-! ## Blanks and comments -/

def isSpace (c : Char) : Bool := c == ' ' || c == '\t'

def spaces : Reader Unit := do
  let _ ← takeWhile isSpace

/-- Characters that may stand in comments and literal strings. -/
def isPlain (c : Char) : Bool := c == '\t' || (0x20 ≤ c.toNat && c.toNat != 0x7F)

/-- Reads a comment up to the end of its line, if one comes next. -/
def comment : Reader Unit := do
  if (← peek).head? = some '#' then
    let chars ← takeWhile fun c => c != '\n' && c != '\r'
    unless chars.all isPlain do fail

/-- Reads a line end if one comes next, and tells whether it did. -/
def newline : Reader Bool := do
  match ← peek with
  | '\n' :: _ => take 1; return true
  | '\r' :: '\n' :: _ => take 2; return true
  | _ => return false

/-- Reads to the end of a line that holds nothing more. -/
def lineEnd : Reader Unit := do
  spaces
  comment
  unless ← newline do
    unless (← peek).isEmpty do fail

/-- Reads blanks, comments and line ends. -/
def gap : Nat → Reader Unit
  | 0 => return ()
  | fuel + 1 => do
    spaces
    comment
    if ← newline then gap fuel

/-! ## Strings -/

def isScalarCode (n : Nat) : Bool := n < 0xD800 || (0xDFFF < n && n < 0x110000)

/-- Reads the hexadecimal code of a character. -/
def codePoint (width : Nat) : Reader (List Char) := do
  let digits := (← peek).take width
  if digits.length = width ∧ digits.all isHex ∧ isScalarCode (ofBase 16 digits) then
    take width
    return [Char.ofNat (ofBase 16 digits)]
  else
    fail

/-- Reads what follows a backslash. -/
def escape : Reader (List Char) := do
  match ← peek with
  | 'b' :: _ => take 1; return [Char.ofNat 8]
  | 't' :: _ => take 1; return ['\t']
  | 'n' :: _ => take 1; return ['\n']
  | 'f' :: _ => take 1; return [Char.ofNat 12]
  | 'r' :: _ => take 1; return ['\r']
  | 'e' :: _ => take 1; return [Char.ofNat 27]
  | '"' :: _ => take 1; return ['"']
  | '\\' :: _ => take 1; return ['\\']
  | 'x' :: _ => take 1; codePoint 2
  | 'u' :: _ => take 1; codePoint 4
  | 'U' :: _ => take 1; codePoint 8
  | _ => fail

/-- Reads a string up to its closing quote; `read` holds what was read, in reverse. -/
def basicString : Nat → List Char → Reader String
  | 0, _ => fail
  | fuel + 1, read => do
    match ← peek with
    | '"' :: _ => take 1; return String.ofList read.reverse
    | '\\' :: _ =>
      take 1
      let chars ← escape
      basicString fuel (chars.reverse ++ read)
    | c :: _ =>
      if isPlain c then
        take 1
        basicString fuel (c :: read)
      else
        fail
    | [] => fail

/-- Reads a string between apostrophes, in which nothing is escaped. -/
def literalString : Reader String := do
  let chars ← takeWhile fun c => c != '\'' && isPlain c
  expect ['\'']
  return String.ofList chars

/-- Whether a backslash is followed by nothing but blanks on its line. -/
def endsLine (text : List Char) : Bool :=
  match text.dropWhile isSpace with
  | '\n' :: _ => true
  | '\r' :: '\n' :: _ => true
  | _ => false

/-- Skips blanks and line ends. -/
def skipLines : Nat → Reader Unit
  | 0 => return ()
  | fuel + 1 => do
    spaces
    if ← newline then skipLines fuel

/-- The quotes at the end of a string of several lines: three of them close it, and up to two more
belong to the text. -/
def closing (quote : Char) (read : List Char) : Reader (Option String × List Char) := do
  let quotes ← takeWhile (· == quote)
  if quotes.length < 3 then return (none, quotes ++ read)
  else if quotes.length ≤ 5 then
    return (some (String.ofList (quotes.drop 3 ++ read).reverse), [])
  else fail

/-- Reads a string of several lines up to its closing quotes. Only one between double quotes has
escapes. -/
def longString (quote : Char) : Nat → List Char → Reader String
  | 0, _ => fail
  | fuel + 1, read => do
    match ← peek with
    | '\r' :: '\n' :: _ =>
      take 2
      longString quote fuel ('\n' :: '\r' :: read)
    | '\n' :: _ =>
      take 1
      longString quote fuel ('\n' :: read)
    | c :: rest =>
      if c = quote then
        match ← closing quote read with
        | (some text, _) => return text
        | (none, read) => longString quote fuel read
      else if c = '\\' ∧ quote = '"' then
        take 1
        if endsLine rest then
          skipLines rest.length
          longString quote fuel read
        else
          let chars ← escape
          longString quote fuel (chars.reverse ++ read)
      else if isPlain c then
        take 1
        longString quote fuel (c :: read)
      else
        fail
    | [] => fail

/-- Reads a string of either kind on one line, from its opening quote on. -/
def shortString : Reader String := do
  match ← peek with
  | '"' :: rest => take 1; basicString (rest.length + 1) []
  | '\'' :: _ => take 1; literalString
  | _ => fail

/-- Reads a string of several lines after its opening quotes. A line end right after them is no
part of the text. -/
def longStringFrom (quote : Char) : Reader String := do
  take 3
  let _ ← newline
  longString quote ((← peek).length + 1) []

/-- Reads a string, with its place. -/
def string : Reader Value := do
  let start ← offset
  let text ←
    match ← peek with
    | '"' :: '"' :: '"' :: _ => longStringFrom '"'
    | '\'' :: '\'' :: '\'' :: _ => longStringFrom '\''
    | _ => shortString
  return .string text ⟨start, (← offset) - start⟩

/-! ## Keys -/

def isBare (c : Char) : Bool := c.isAlphanum || c == '_' || c == '-'

/-- Reads one part of a key. -/
def keyPart : Reader String := do
  match ← peek with
  | '"' :: '"' :: '"' :: _ => fail
  | '\'' :: '\'' :: '\'' :: _ => fail
  | '"' :: _ => shortString
  | '\'' :: _ => shortString
  | _ =>
    let chars ← takeWhile isBare
    if chars.isEmpty then fail
    return String.ofList chars

/-- Reads the parts of a key, which are joined by dots; `fuel` bounds their number. -/
def keyParts : Nat → Reader (List String)
  | 0 => fail
  | fuel + 1 => do
    let part ← keyPart
    spaces
    if ← accept ['.'] then
      spaces
      let parts ← keyParts fuel
      return part :: parts
    else
      return [part]

/-- How many parts a key may have. -/
def maxParts : Nat := 80

def key : Reader (List String) := keyParts maxParts

/-! ## Values -/

/-- How deep arrays and inline tables may nest. -/
def maxDepth : Nat := 80

/-- Characters that end a value without quotes. -/
def isDelimiter (c : Char) : Bool :=
  c ∈ ['=', ',', '[', ']', '\x7b', '\x7d', '#', '\r', '\n']

/-- Whether a word follows, perhaps after blanks, that goes on with a value without quotes. -/
def wordFollows (text : List Char) : Bool :=
  match text.dropWhile isSpace with
  | c :: _ => !isDelimiter c && c != '.' && c != '"' && c != '\''
  | [] => false

/-- The characters of a value without quotes: words with blanks between them. -/
def scalarChars : List Char → List Char
  | [] => []
  | c :: rest =>
    if isDelimiter c || (isSpace c && !wordFollows rest) then [] else c :: scalarChars rest

def scalar : Reader Value := do
  let chars := scalarChars (← peek)
  take chars.length
  match Scalar.read? chars with
  | some value => return .scalar value
  | none => fail

/-- The table that the entries of an inline table build. -/
def inlineTable (entries : List Statement) : Reader Value :=
  match build entries with
  | some table => return .table table
  | none => fail

mutual

/-- Reads a value; `depth` levels of nesting are left, and `fuel` bounds the steps. -/
def value (depth : Nat) : Nat → Reader Value
  | 0 => fail
  | fuel + 1 => do
    match ← peek with
    | '"' :: _ => string
    | '\'' :: _ => string
    | '[' :: _ =>
      if depth = 0 then fail
      let start ← offset
      take 1
      let items ← items (depth - 1) fuel
      return .array items (some ⟨start, (← offset) - start⟩)
    | '\x7b' :: _ =>
      if depth = 0 then fail
      take 1
      let entries ← entries (depth - 1) fuel
      inlineTable entries
    | _ => scalar

/-- Reads the items of an array up to its closing bracket. -/
def items (depth : Nat) : Nat → Reader (List Value)
  | 0 => fail
  | fuel + 1 => do
    gap fuel
    if ← accept [']'] then return []
    let item ← value depth fuel
    gap fuel
    if ← accept [','] then
      let others ← items depth fuel
      return item :: others
    else
      expect [']']
      return [item]

/-- Reads the entries of an inline table up to its closing brace. -/
def entries (depth : Nat) : Nat → Reader (List Statement)
  | 0 => fail
  | fuel + 1 => do
    gap fuel
    if ← accept ['\x7d'] then return []
    let path ← key
    gap fuel
    expect ['=']
    gap fuel
    let item ← value depth fuel
    gap fuel
    if ← accept [','] then
      let others ← entries depth fuel
      return .assign path item :: others
    else
      expect ['\x7d']
      return [.assign path item]

end

/-! ## Statements -/

def assignment : Reader Statement := do
  let path ← key
  expect ['=']
  spaces
  let item ← value maxDepth (2 * (← peek).length + 2)
  return .assign path item

def header : Reader Statement := do
  if ← accept ['[', '['] then
    spaces
    let path ← key
    expect [']', ']']
    return .arrayHeader path
  else
    expect ['[']
    spaces
    let path ← key
    expect [']']
    return .header path

/-- Reads one line, which may hold no statement. -/
def line : Reader (List Statement) := do
  spaces
  match ← peek with
  | [] => return []
  | '#' :: _ => lineEnd; return []
  | '\n' :: _ => lineEnd; return []
  | '\r' :: _ => lineEnd; return []
  | '[' :: _ =>
    let statement ← header
    lineEnd
    return [statement]
  | _ =>
    let statement ← assignment
    lineEnd
    return [statement]

def statements : Nat → Reader (List Statement)
  | 0 => return []
  | fuel + 1 => do
    if (← peek).isEmpty then return []
    let first ← line
    let others ← statements fuel
    return first ++ others

end Reader

/-- Reads a document. A byte order mark at its start is skipped. -/
def read? (text : String) : Option Table := do
  let chars := text.toList
  let start : Cursor :=
    match chars with
    | c :: rest => if c.toNat = 0xFEFF then ⟨3, rest⟩ else ⟨0, chars⟩
    | [] => ⟨0, []⟩
  let (statements, _) ← Reader.statements (chars.length + 1) start
  build statements

end GraphSchema.Toml
