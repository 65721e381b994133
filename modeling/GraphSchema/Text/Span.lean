/-!
# Spans

Places in a text, counted in bytes of its UTF-8 form.
-/

namespace GraphSchema.Text

structure Span where
  offset : Nat
  length : Nat
  deriving DecidableEq, Repr

def byteSize (text : List Char) : Nat :=
  text.foldl (fun n c => n + c.utf8Size) 0

/-- The offset of the first place where a pattern occurs; `offset` is that of the text. -/
def offsetOf? (pattern : List Char) (offset : Nat) : List Char → Option Nat
  | [] => if pattern.isEmpty then some offset else none
  | c :: rest =>
    if pattern.isPrefixOf (c :: rest) then some offset
    else offsetOf? pattern (offset + c.utf8Size) rest

end GraphSchema.Text
