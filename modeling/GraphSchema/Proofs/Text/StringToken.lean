import GraphSchema.Proofs.Text.Quoted

/-!
# String tokens

The tokens of GraphQL between two double quotes, and how the first token of a text is read. A quoted
string is one such token whatever text it was made of: nothing of the text ends the token early, and
reading the token gives the text back.
-/

namespace GraphSchema.Text.StringToken

/-! ## Rules -/

/-- The value of a hexadecimal digit, in capitals or not. -/
def digitValue? (c : Char) : Option Nat :=
  if '0' ≤ c ∧ c ≤ '9' then some (c.toNat - 48)
  else if 'A' ≤ c ∧ c ≤ 'F' then some (c.toNat - 55)
  else if 'a' ≤ c ∧ c ≤ 'f' then some (c.toNat - 87)
  else none

/-- The character of a code with four digits. Surrogates are no characters. -/
def codeChar? (a b c d : Char) : Option Char := do
  let code := 4096 * (← digitValue? a) + 256 * (← digitValue? b) + 16 * (← digitValue? c) +
    (← digitValue? d)
  if code.isValidChar then some (Char.ofNat code) else none

/-- What GraphQL lets stand behind a backslash for one character. -/
def escapeChar? : Char → Option Char
  | '"' => some '"'
  | '\\' => some '\\'
  | '/' => some '/'
  | 'b' => some '\x08'
  | 'f' => some '\x0c'
  | 'n' => some '\n'
  | 'r' => some '\r'
  | 't' => some '\t'
  | _ => none

def before (c : Char) (result : List Char × List Char) : List Char × List Char :=
  (c :: result.1, result.2)

/-- What stands in front of the closing quote, with its escapes read, and what comes behind it. -/
def read : List Char → Option (List Char × List Char)
  | '"' :: rest => some ([], rest)
  | '\\' :: 'u' :: a :: b :: c :: d :: rest => do (read rest).map (before (← codeChar? a b c d))
  | '\\' :: c :: rest => do (read rest).map (before (← escapeChar? c))
  | c :: rest => if c = '\n' ∨ c = '\r' then none else (read rest).map (before c)
  | [] => none

/-- The value of the string token that the text starts with, and what comes behind the token. Three
quotes would start a block string. -/
def token? : List Char → Option (String × List Char)
  | '"' :: '"' :: '"' :: _ => none
  | '"' :: text => (read text).map fun (value, rest) => (String.ofList value, rest)
  | _ => none

/-- No control character of Unicode, category `Cc`. Those take in the ends of lines. -/
def Plain (c : Char) : Prop := 0x20 ≤ c.toNat ∧ (c.toNat < 0x7F ∨ 0x9F < c.toNat)

/-- How a character may be spelled between the quotes. -/
inductive Spelling : List Char → Char → Prop where
  | plain {c : Char} (plain : Plain c) (quote : c ≠ '"') (backslash : c ≠ '\\') : Spelling [c] c
  | quote : Spelling ['\\', '"'] '"'
  | backslash : Spelling ['\\', '\\'] '\\'
  | lineFeed : Spelling ['\\', 'n'] '\n'
  | carriageReturn : Spelling ['\\', 'r'] '\r'
  | tab : Spelling ['\\', 't'] '\t'
  | code {a b c d char : Char} (code : codeChar? a b c d = some char) :
    Spelling ['\\', 'u', a, b, c, d] char

/-! ## Spelled characters -/

theorem plain_of_digitValue? {c : Char} {n : Nat} (h : digitValue? c = some n) : Plain c := by
  unfold digitValue? at h
  unfold Plain
  simp only [Char.le_def, UInt32.le_iff_toNat_le, Char.toNat_val, Char.reduceToNat] at h
  split_ifs at h <;> omega

theorem plain_of_codeChar? {a b c d char : Char} (h : codeChar? a b c d = some char) :
    Plain a ∧ Plain b ∧ Plain c ∧ Plain d := by
  simp only [codeChar?, Option.bind_eq_bind, Option.bind_eq_some_iff] at h
  obtain ⟨_, ha, _, hb, _, hc, _, hd, -⟩ := h
  exact ⟨plain_of_digitValue? ha, plain_of_digitValue? hb, plain_of_digitValue? hc,
    plain_of_digitValue? hd⟩

/-- Nothing is spelled with control characters. -/
theorem Spelling.plain_of_mem {piece : List Char} {c : Char} (h : Spelling piece c) :
    ∀ d ∈ piece, Plain d := by
  cases h with
  | plain plain => exact List.forall_mem_singleton.2 plain
  | quote | backslash | lineFeed | carriageReturn | tab => simp [Plain]
  | code code =>
    obtain ⟨ha, hb, hc, hd⟩ := plain_of_codeChar? code
    have hmark : Plain '\\' ∧ Plain 'u' := by simp [Plain]
    simp [hmark, ha, hb, hc, hd]

theorem read_plain {c : Char} (hplain : Plain c) (hquote : c ≠ '"') (hbackslash : c ≠ '\\')
    (rest : List Char) : read (c :: rest) = (read rest).map (before c) := by
  have hend : ¬ (c = '\n' ∨ c = '\r') := by
    rintro (rfl | rfl) <;> exact absurd hplain.1 (by decide)
  rw [read.eq_4 c rest hquote (fun _ _ _ _ _ h => absurd h hbackslash)
    fun _ _ h => absurd h hbackslash, if_neg hend]

theorem read_spelling {piece : List Char} {c : Char} (h : Spelling piece c)
    (rest : List Char) : read (piece ++ rest) = (read rest).map (before c) := by
  cases h with
  | plain plain quote backslash => exact read_plain plain quote backslash rest
  | quote | backslash | lineFeed | carriageReturn | tab => rfl
  | code code => simp [read, code]

/-- Spelled characters are read up to the first quote that is not part of a spelling. -/
theorem read_pieces {pieces : List (List Char)} {text : List Char}
    (h : List.Forall₂ Spelling pieces text) (rest : List Char) :
    read (pieces.flatten ++ '"' :: rest) = some (text, rest) := by
  induction h with
  | nil => rfl
  | cons hpiece _ ih =>
    rw [List.flatten_cons, List.append_assoc, read_spelling hpiece, ih]
    rfl

theorem plain_of_mem_flatten {pieces : List (List Char)} {text : List Char}
    (h : List.Forall₂ Spelling pieces text) : ∀ c ∈ pieces.flatten, Plain c := by
  induction h with
  | nil => nofun
  | cons hpiece _ ih =>
    rw [List.flatten_cons]
    exact List.forall_mem_append.2 ⟨hpiece.plain_of_mem, ih⟩

/-! ## Spelling of quoted strings -/

theorem digitValue?_hexDigit {n : Nat} (h : n < 16) : digitValue? (hexDigit n) = some n := by
  have hall : ∀ n < 16, digitValue? (hexDigit n) = some n := by decide
  exact hall n h

theorem codeChar?_hex4 {c : Char} (h : c.toNat < 65536) :
    codeChar? (hexDigit (c.toNat / 4096 % 16)) (hexDigit (c.toNat / 256 % 16))
      (hexDigit (c.toNat / 16 % 16)) (hexDigit (c.toNat % 16)) = some c := by
  have hvalue : 4096 * (c.toNat / 4096 % 16) + 256 * (c.toNat / 256 % 16) +
      16 * (c.toNat / 16 % 16) + c.toNat % 16 = c.toNat := by omega
  have hvalid : c.toNat.isValidChar := c.valid
  have hdigit : ∀ n, digitValue? (hexDigit (n % 16)) = some (n % 16) := fun n =>
    digitValue?_hexDigit (Nat.mod_lt n (by decide))
  simp only [codeChar?, hdigit, Option.bind_eq_bind, Option.bind_some, hvalue, if_pos hvalid,
    Char.ofNat_toNat]

theorem spelling_quoteChar (c : Char) : Spelling (quoteChar c) c := by
  unfold quoteChar
  split_ifs with hreturn hfeed htab hbackslash hquote hcontrol
  · exact hreturn ▸ .carriageReturn
  · exact hfeed ▸ .lineFeed
  · exact htab ▸ .tab
  · exact hbackslash ▸ .backslash
  · exact hquote ▸ .quote
  · exact .code (codeChar?_hex4 (toNat_lt_of_isControl hcontrol))
  · refine .plain ?_ hquote hbackslash
    simp only [isControl, Bool.or_eq_true, Bool.and_eq_true, decide_eq_true_eq] at hcontrol
    unfold Plain
    omega

theorem spelling_quote (text : List Char) :
    List.Forall₂ Spelling (text.map quoteChar) text :=
  List.forall₂_map_left_iff.2 (List.forall₂_same.2 fun c _ => spelling_quoteChar c)

/-! ## Quoted strings -/

theorem token?_of_starts {text : List Char} (h : ∀ rest, text ≠ '"' :: '"' :: rest) :
    token? ('"' :: text) = (read text).map fun (value, rest) => (String.ofList value, rest) := by
  rw [token?.eq_2]
  exact h

theorem token?_quote (s : String) (rest : List Char) (hrest : s = "" → rest.head? ≠ some '"') :
    token? ((quote s).toList ++ rest) = some (s, rest) := by
  have htext : (quote s).toList ++ rest =
      '"' :: ((s.toList.map quoteChar).flatten ++ '"' :: rest) := by
    simp [toList_quote, List.flatMap]
  rw [htext, token?_of_starts, read_pieces (spelling_quote s.toList)]
  · simp
  · -- Only an empty text closes at once, and then the next quote would be one of the rest.
    intro more heq
    cases hchars : s.toList with
    | nil =>
      rw [hchars] at heq
      have hrest' : rest = '"' :: more := (List.cons.inj heq).2
      exact hrest (String.toList_eq_nil_iff.1 hchars) (by rw [hrest', List.head?_cons])
    | cons c text =>
      rw [hchars, List.map_cons, List.flatten_cons, List.append_assoc] at heq
      have hstart : Starts (· = '"') ('"' :: '"' :: more) := by simp
      exact ((starts_quoteChar c).append _).ne hstart (fun _ hne heq => hne heq) heq

/-- A quoted string is one string token. Each character is spelled by itself, in plain characters
and with few sorts of escapes. Reading the token gives the text back and stops behind the last
quote, whatever comes there, so different texts are quoted differently. -/
theorem quote_is_token (s : String) :
    (∃ pieces : List (List Char),
      (quote s).toList = '"' :: (pieces.flatten ++ ['"']) ∧
      List.Forall₂ Spelling pieces s.toList ∧ ∀ c ∈ pieces.flatten, Plain c) ∧
    token? (quote s).toList = some (s, []) ∧
    (∀ rest, (s = "" → rest.head? ≠ some '"') →
      token? ((quote s).toList ++ rest) = some (s, rest)) ∧
    Function.Injective quote := by
  have hwhole : ∀ text, token? (quote text).toList = some (text, []) := fun text => by
    simpa using token?_quote text [] nofun
  refine ⟨⟨s.toList.map quoteChar, ?_, spelling_quote s.toList, ?_⟩, hwhole s,
    token?_quote s, fun text other h => ?_⟩
  · rw [toList_quote, List.flatMap]
  · exact plain_of_mem_flatten (spelling_quote s.toList)
  · have hsame := (hwhole text).symm.trans (h ▸ hwhole other)
    exact congrArg Prod.fst (Option.some.inj hsame)

/-- Quotes, something that looks like an escape, a line feed, and controls in and above ASCII. -/
def disguised : String := "say \"hi\\\"\n\\u0041\x01\u0085"

theorem quote_is_token_disguised :
    quote disguised = "\"say \\\"hi\\\\\\\"\\n\\\\u0041\\u0001\\u0085\"" ∧
    (disguised = "" → [')', '"'].head? ≠ some '"') ∧
    token? ((quote disguised).toList ++ [')', '"']) = some (disguised, [')', '"']) ∧
    quote "\n" ≠ quote "\\n" := by
  have hrest : disguised = "" → [')', '"'].head? ≠ some '"' := by decide
  obtain ⟨-, -, hread, hinjective⟩ := quote_is_token disguised
  exact ⟨by decide, hrest, hread _ hrest, hinjective.ne (by decide)⟩

end GraphSchema.Text.StringToken
