import GraphSchema.Text.Lines

/-!
# Writing lines

Text as a list of lines, each with its level of indentation, and a writer that appends lines at a
current level.
-/

namespace GraphSchema.Sdl

inductive Indent where
  | spaces (width : Nat)
  | tab
  deriving DecidableEq, Repr

/-- The text of one level. Widths other than 2, 4 and 8 count as 2. -/
def Indent.text : Indent → String
  | spaces 4 => "    "
  | spaces 8 => "        "
  | spaces _ => "  "
  | tab => "\t"

def Indent.standard : Indent := .spaces 2

inductive Line where
  /-- An empty line, which is never indented. -/
  | blank
  | text (level : Nat) (text : String)
  deriving DecidableEq, Repr

namespace Line

def render (indent : Indent) : Line → String
  | blank => "\n"
  | text level s => String.join (List.replicate level indent.text) ++ s ++ "\n"

/-- The line some levels further in. -/
def shift (levels : Nat) : Line → Line
  | blank => blank
  | text level s => text (level + levels) s

/-- A line of a text: blank if there is nothing on it. -/
def ofChars (chars : List Char) : Line :=
  if chars.isEmpty then blank else text 0 (String.ofList chars)

end Line

/-- The lines of a text. -/
def textLines (s : List Char) : List Line := (Text.lines s).map Line.ofChars

def renderLines (indent : Indent) (lines : List Line) : String :=
  String.join (lines.map (·.render indent))

/-- Lines between a header and a closing line, one level further in. -/
def block (header close : String) (body : List Line) : List Line :=
  .text 0 header :: body.map (·.shift 1) ++ [.text 0 close]

/-! ## Writing step by step -/

structure Writer where
  indent : Indent := .standard
  level : Nat := 0
  lines : List Line := []

namespace Writer

/-- Appends lines at the current level. -/
def add (w : Writer) (lines : List Line) : Writer :=
  { w with lines := w.lines ++ lines.map (·.shift w.level) }

def line (w : Writer) (s : String) : Writer := w.add [.text 0 s]

def text (w : Writer) (s : String) : Writer := w.add (textLines s.toList)

def blank (w : Writer) : Writer := w.add [.blank]

def deeper (w : Writer) : Writer := { w with level := w.level + 1 }

/-- One level out, and no further than the margin. -/
def shallower (w : Writer) : Writer := { w with level := w.level - 1 }

/-- A header, what `body` writes one level further in, and a closing line. -/
def block (w : Writer) (header close : String) (body : Writer → Writer) : Writer :=
  (body (w.line header).deeper).shallower.line close

def isEmpty (w : Writer) : Bool := w.lines.isEmpty

def build (w : Writer) : String := renderLines w.indent w.lines

end Writer

end GraphSchema.Sdl
