/-!
# Blank characters

The characters with the Unicode property `White_Space`, and trimming by them.
-/

namespace GraphSchema.Text

def isBlank (c : Char) : Bool :=
  let n := c.toNat
  (9 ≤ n && n ≤ 13) || n == 32 || n == 0x85 || n == 0xA0 || n == 0x1680 ||
  (0x2000 ≤ n && n ≤ 0x200A) || n == 0x2028 || n == 0x2029 || n == 0x202F || n == 0x205F ||
  n == 0x3000

/-- The text without the blanks it begins with. -/
def trimStart (text : List Char) : List Char :=
  text.dropWhile isBlank

/-- The text without the blanks it ends with. -/
def trimEnd (text : List Char) : List Char :=
  (text.reverse.dropWhile isBlank).reverse

def trim (text : List Char) : List Char :=
  trimEnd (trimStart text)

theorem length_trimStart_le (text : List Char) : (trimStart text).length ≤ text.length :=
  (List.dropWhile_suffix _).length_le

theorem length_trimEnd_le (text : List Char) : (trimEnd text).length ≤ text.length := by
  have h := (List.dropWhile_suffix (l := text.reverse) isBlank).length_le
  simpa [trimEnd] using h

theorem length_trim_le (text : List Char) : (trim text).length ≤ text.length :=
  Nat.le_trans (length_trimEnd_le _) (length_trimStart_le _)

end GraphSchema.Text
