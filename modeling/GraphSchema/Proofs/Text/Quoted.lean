import GraphSchema.Proofs.Text.Reading
import GraphSchema.Text.Quoted

/-!
# Reading quoted strings

Every character between the quotes can be read back by itself, and none is written with a quote at
its start. So a quoted string tells where it ends, whatever follows.
-/

namespace GraphSchema.Text

/-! ## One character -/

def hexValue (c : Char) : Nat :=
  if c.toNat < 58 then c.toNat - 48 else c.toNat - 55

/-- The character that an escape stands for, read behind its backslash. -/
def unescape? : List Char → Option (Char × List Char)
  | 'r' :: rest => some ('\r', rest)
  | 'n' :: rest => some ('\n', rest)
  | 't' :: rest => some ('\t', rest)
  | '\\' :: rest => some ('\\', rest)
  | '"' :: rest => some ('"', rest)
  | 'u' :: a :: b :: c :: d :: rest =>
    some (Char.ofNat (4096 * hexValue a + 256 * hexValue b + 16 * hexValue c + hexValue d), rest)
  | _ => none

/-- The first character of a quoted text, and the text behind it. -/
def unquoteChar? : List Char → Option (Char × List Char)
  | [] => none
  | c :: rest => if c = '\\' then unescape? rest else some (c, rest)

theorem hexValue_hexDigit {n : Nat} (h : n < 16) : hexValue (hexDigit n) = n := by
  have hall : ∀ n < 16, hexValue (hexDigit n) = n := by decide
  exact hall n h

theorem toNat_lt_of_isControl {c : Char} (h : isControl c = true) : c.toNat < 65536 := by
  simp only [isControl, Bool.or_eq_true, Bool.and_eq_true, decide_eq_true_eq] at h
  omega

theorem unescape?_hex4 {c : Char} (h : c.toNat < 65536) (rest : List Char) :
    unescape? ('u' :: hex4 c.toNat ++ rest) = some (c, rest) := by
  have hvalue : 4096 * (c.toNat / 4096 % 16) + 256 * (c.toNat / 256 % 16) +
      16 * (c.toNat / 16 % 16) + c.toNat % 16 = c.toNat := by omega
  simp only [hex4, unescape?, List.cons_append, List.nil_append]
  rw [hexValue_hexDigit (by omega), hexValue_hexDigit (by omega), hexValue_hexDigit (by omega),
    hexValue_hexDigit (by omega), hvalue, Char.ofNat_toNat]

theorem unquoteChar?_quoteChar (c : Char) (rest : List Char) :
    unquoteChar? (quoteChar c ++ rest) = some (c, rest) := by
  unfold quoteChar
  split_ifs with hreturn hfeed htab hbackslash hquote hcontrol
  · rw [hreturn]; rfl
  · rw [hfeed]; rfl
  · rw [htab]; rfl
  · rw [hbackslash]; rfl
  · rw [hquote]; rfl
  · exact unescape?_hex4 (toNat_lt_of_isControl hcontrol) rest
  · exact if_neg hbackslash

theorem starts_quoteChar (c : Char) : Starts (· ≠ '"') (quoteChar c) := by
  unfold quoteChar
  split_ifs with _ _ _ _ hquote <;> simp_all

theorem readable_quoteChar : Readable (fun _ => True) quoteChar (fun _ => True) := by
  intro a b _ _ r s _ _ h
  have hread := congrArg unquoteChar? h
  rw [unquoteChar?_quoteChar, unquoteChar?_quoteChar, Option.some.injEq, Prod.mk.injEq] at hread
  exact hread

/-! ## Strings -/

theorem toList_quote (text : String) :
    (quote text).toList = '"' :: (text.toList.flatMap quoteChar ++ ['"']) := by
  simp [quote]

theorem readable_quote :
    Readable (fun _ => True) (fun text => (quote text).toList) (fun _ => True) := by
  intro a b _ _ r s _ _ h
  simp only [toList_quote, List.cons_append, List.cons.injEq, true_and, List.append_assoc] at h
  have hbody : Readable (fun chars : List Char => ∀ c ∈ chars, True) (List.flatMap quoteChar)
      (Starts (· = '"')) :=
    readable_quoteChar.flatMap (fun _ _ _ => trivial) (fun _ _ => trivial) fun c r s _ hr =>
      ((starts_quoteChar c).append s).ne hr fun _ hne heq => hne heq
  obtain ⟨htext, hrest⟩ := hbody (fun _ _ => trivial) (fun _ _ => trivial)
    (by simp) (by simp) h
  exact ⟨String.toList_inj.1 htext, by simpa using hrest⟩

end GraphSchema.Text
