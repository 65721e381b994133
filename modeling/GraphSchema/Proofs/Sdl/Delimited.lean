import GraphSchema.Proofs.Sdl.Names
import GraphSchema.Proofs.Text.Quoted
import GraphSchema.Results
import GraphSchema.Sdl.Literal

/-!
# Where literals end

Literals hold commas, blanks and brackets, but only between brackets or quotes. A reader that counts
brackets and minds quotes finds where a literal ends without knowing its type.
-/

namespace GraphSchema.Sdl

/-! ## The reader -/

/-- A reader of literals: how many brackets are open, and whether it is between quotes or directly
behind a backslash there. -/
inductive Reader where
  | outside (depth : Nat)
  | inside (depth : Nat)
  | escaped (depth : Nat)

/-- One bracket is closed, if one is open. -/
def Reader.close : Nat → Option Reader
  | 0 => none
  | depth + 1 => some (.outside depth)

def Reader.step : Reader → Char → Option Reader
  | .outside depth, c =>
    if c = '"' then some (.inside depth)
    else if c ∈ ['[', '\x7b'] then some (.outside (depth + 1))
    else if c ∈ [']', '\x7d'] then close depth
    else if depth = 0 ∧ c ∈ [',', ')', ' ', '\n'] then none
    else some (.outside depth)
  | .inside depth, c =>
    if c = '"' then some (.outside depth)
    else if c = '\\' then some (.escaped depth)
    else some (.inside depth)
  | .escaped depth, _ => some (.inside depth)

/-- The reader takes the text and is where it was. -/
def Delimited (text : List Char) : Prop :=
  ∀ depth, Text.scan Reader.step (.outside depth) text = some (.outside depth)

/-- The same, if a bracket is open. -/
def Enclosed (text : List Char) : Prop :=
  ∀ depth, Text.scan Reader.step (.outside (depth + 1)) text = some (.outside (depth + 1))

theorem Delimited.enclosed {text : List Char} (h : Delimited text) : Enclosed text :=
  fun depth => h (depth + 1)

theorem Enclosed.append {text rest : List Char} (h : Enclosed text) (h' : Enclosed rest) :
    Enclosed (text ++ rest) := by
  intro depth
  rw [Text.scan_append, h depth, Option.bind_some, h' depth]

theorem Enclosed.list {text : List Char} (h : Enclosed text) :
    Delimited ('[' :: text ++ [']']) := by
  intro depth
  have hopen : Text.scan Reader.step (.outside depth) ['['] = some (.outside (depth + 1)) := rfl
  rw [← List.singleton_append, Text.scan_append, Text.scan_append, hopen, Option.bind_some, h depth]
  rfl

theorem Enclosed.object {text : List Char} (h : Enclosed text) :
    Delimited ('\x7b' :: text ++ ['\x7d']) := by
  intro depth
  have hopen : Text.scan Reader.step (.outside depth) ['\x7b'] = some (.outside (depth + 1)) := rfl
  rw [← List.singleton_append, Text.scan_append, Text.scan_append, hopen, Option.bind_some, h depth]
  rfl

theorem enclosed_intercalate {texts : List (List Char)} (h : ∀ text ∈ texts, Delimited text) :
    Enclosed ([',', ' '].intercalate texts) := by
  have hcomma : Enclosed [',', ' '] := fun _ => rfl
  induction texts with
  | nil => exact fun _ => rfl
  | cons text rest ih =>
    rw [List.forall_mem_cons] at h
    cases rest with
    | nil => simpa using h.1.enclosed
    | cons other rest =>
      rw [List.intercalate_cons_cons]
      exact (h.1.enclosed.append hcomma).append (ih h.2)

/-! ## Plain literals -/

/-- The characters of names and numbers. -/
def isPlain (c : Char) : Bool := Name.isPart c || c ∈ ['-', '+', '.']

theorem delimited_of_plain {text : List Char} (h : ∀ c ∈ text, isPlain c) : Delimited text := by
  intro depth
  induction text with
  | nil => rfl
  | cons c rest ih =>
    rw [List.forall_mem_cons] at h
    have hstep : Reader.step (.outside depth) c = some (.outside depth) := by
      have hne : ∀ d, isPlain d = false → c ≠ d := by
        rintro d hd rfl
        rw [h.1] at hd
        cases hd
      simp [Reader.step, hne '"' (by decide), hne '[' (by decide), hne ']' (by decide),
        hne '\x7b' (by decide), hne '\x7d' (by decide), hne ',' (by decide), hne ')' (by decide),
        hne ' ' (by decide), hne '\n' (by decide)]
    have hscan : Text.scan Reader.step (.outside depth) (c :: rest) =
        (Reader.step (.outside depth) c).bind (Text.scan Reader.step · rest) :=
      List.foldlM_cons
    rw [hscan, hstep, Option.bind_some, ih h.2]

theorem delimited_name {name : String} (h : Name.isValid name) : Delimited name.toList :=
  delimited_of_plain fun c hc => by simp [isPlain, Name.isPart_of_isValid h c hc]

theorem isPlain_of_isDigit {c : Char} (h : c.isDigit) : isPlain c := by
  simp [isPlain, Name.isPart, Char.isAlphanum, h]

theorem isPlain_of_mem_digitChars {n : Nat} {c : Char} (h : c ∈ Double.digitChars n) :
    isPlain c := by
  rw [Double.digitChars, Nat.toList_repr] at h
  exact isPlain_of_isDigit (Nat.isDigit_of_mem_toDigits (by decide) (by decide) h)

theorem delimited_int (n : Int) : Delimited (toString n).toList := by
  refine delimited_of_plain fun c hc => ?_
  rw [Int.toString_eq_repr, Int.repr_eq_if] at hc
  split at hc
  · exact isPlain_of_mem_digitChars hc
  · rw [String.toList_append, List.mem_append] at hc
    rcases hc with hc | hc
    · simp at hc
      exact hc ▸ by decide
    · exact isPlain_of_mem_digitChars hc

theorem isPlain_of_mem_positional {digits : List Char} (h : ∀ c ∈ digits, isPlain c) (power : Int) :
    ∀ c ∈ Double.positional digits power, isPlain c := by
  have hzero : isPlain '0' := by decide
  have hpoint : isPlain '.' := by decide
  intro c hc
  unfold Double.positional at hc
  split at hc
  · simp only [List.mem_append, List.mem_replicate, List.mem_cons, List.not_mem_nil,
      or_false] at hc
    rcases hc with (hc | ⟨-, rfl⟩) | rfl | rfl
    · exact h c hc
    · exact hzero
    · exact hpoint
    · exact hzero
  · -- The digits before and behind the point are those of the padded number.
    simp only [List.mem_append, List.mem_cons] at hc
    have hpadded : ∀ places, c ∈ List.replicate places '0' ++ digits → isPlain c := by
      intro places hmem
      rcases List.mem_append.1 hmem with hmem | hmem
      · exact (List.mem_replicate.1 hmem).2 ▸ hzero
      · exact h c hmem
    rcases hc with hc | rfl | hc
    · exact hpadded _ (List.mem_of_mem_take hc)
    · exact hpoint
    · exact hpadded _ (List.mem_of_mem_drop hc)

theorem isPlain_of_mem_scientific {digits : List Char} (h : ∀ c ∈ digits, isPlain c) (plus : Bool)
    (leading : Int) : ∀ c ∈ Double.scientific plus digits leading, isPlain c := by
  have hsigned : ∀ c ∈ Double.signedChars plus leading, isPlain c := by
    intro c hc
    unfold Double.signedChars at hc
    split at hc
    · rcases List.mem_cons.1 hc with rfl | hc
      · decide
      · exact isPlain_of_mem_digitChars hc
    · split at hc
      · rcases List.mem_cons.1 hc with rfl | hc
        · decide
        · exact isPlain_of_mem_digitChars hc
      · exact isPlain_of_mem_digitChars hc
  intro c hc
  simp only [Double.scientific, List.mem_append, List.mem_cons] at hc
  rcases hc with (hc | hc) | rfl | hc
  · exact h c (List.mem_of_mem_take hc)
  · split at hc
    · cases hc
    · rcases List.mem_cons.1 hc with rfl | hc
      · decide
      · exact h c (List.mem_of_mem_drop hc)
  · decide
  · exact hsigned c hc

theorem delimited_floatText {x : Double} {text : String} (h : floatText? x = some text) :
    Delimited text.toList := by
  refine delimited_of_plain fun c hc => ?_
  unfold floatText? at h
  split at h
  · cases h
    rw [Double.finiteText, String.toList_ofList, List.mem_append] at hc
    rcases hc with hc | hc
    · split at hc
      · rw [List.mem_singleton.1 hc]
        decide
      · cases hc
    · have hdigits : ∀ n, ∀ c ∈ Double.digitChars n, isPlain c := fun _ _ =>
        isPlain_of_mem_digitChars
      unfold Double.magnitudeChars at hc
      dsimp only at hc
      split at hc
      · exact isPlain_of_mem_positional (hdigits _) _ c hc
      · exact isPlain_of_mem_scientific (hdigits _) _ _ c hc
  · cases h

theorem delimited_boolText (b : Bool) : Delimited (boolText b).toList := by
  cases b <;> exact delimited_name (by decide)

/-! ## Quoted literals -/

theorem scan_quoteChar (depth : Nat) (c : Char) :
    Text.scan Reader.step (.inside depth) (Text.quoteChar c) = some (.inside depth) := by
  have hhex : ∀ n < 16, Reader.step (.inside depth) (Text.hexDigit n) = some (.inside depth) := by
    have hne : ∀ n < 16, Text.hexDigit n ≠ '"' ∧ Text.hexDigit n ≠ '\\' := by decide
    intro n hn
    simp [Reader.step, hne n hn]
  unfold Text.quoteChar
  split_ifs with hreturn hfeed htab hbackslash hquote hcontrol
  · rfl
  · rfl
  · rfl
  · rfl
  · rfl
  · have hmod : ∀ n : Nat, n % 16 < 16 := fun n => Nat.mod_lt n (by decide)
    have hescape : ∀ rest, Text.scan Reader.step (.inside depth) ('\\' :: 'u' :: rest) =
        Text.scan Reader.step (.inside depth) rest := fun _ => rfl
    rw [hescape, Text.hex4]
    simp [Text.scan, hhex, hmod]
  · simp [Text.scan, Reader.step, hbackslash, hquote]

theorem delimited_quote (text : String) : Delimited (Text.quote text).toList := by
  intro depth
  have hbody : ∀ chars : List Char, Text.scan Reader.step (.inside depth)
      (chars.flatMap Text.quoteChar) = some (.inside depth) := by
    intro chars
    induction chars with
    | nil => rfl
    | cons c rest ih =>
      rw [List.flatMap_cons, Text.scan_append, scan_quoteChar, Option.bind_some, ih]
  have hopen : ∀ rest, Text.scan Reader.step (.outside depth) ('"' :: rest) =
      Text.scan Reader.step (.inside depth) rest := fun _ => rfl
  rw [Text.toList_quote, hopen, Text.scan_append, hbody, Option.bind_some]
  rfl

/-! ## Literals -/

theorem delimited_idLiteral {type : String} {value : Value} {text : String}
    (h : idLiteral type value = .ok text) : Delimited text.toList := by
  cases value with
  | float x =>
    unfold idLiteral at h
    dsimp only at h
    split at h
    · exact Except.ok.inj h ▸ delimited_quote _
    · cases h
  | string | enum | int | boolean => exact Except.ok.inj h ▸ delimited_quote _
  | null | list | object => cases h

theorem delimited_builtinLiteral {type : String} {value : Value} {text : String}
    (h : builtinLiteral type value = .ok text) : Delimited text.toList := by
  unfold builtinLiteral at h
  split_ifs at h
  · cases value <;> first | exact Except.ok.inj h ▸ delimited_quote _ | cases h
  · cases value with
    | int n =>
      unfold intLiteral at h
      dsimp only at h
      split at h
      · exact Except.ok.inj h ▸ delimited_int n
      · cases h
    | _ => cases h
  · cases value with
    | int n => exact Except.ok.inj h ▸ delimited_int n
    | float x =>
      unfold floatLiteral at h
      dsimp only at h
      split at h
      · rename_i hfloat
        exact Except.ok.inj h ▸ delimited_floatText hfloat
      · cases h
    | _ => cases h
  · cases value <;> first | exact Except.ok.inj h ▸ delimited_boolText _ | cases h
  · exact delimited_idLiteral h

theorem delimited_customScalarText {value : Value} {text : String}
    (hvalue : ∀ name ∈ value.enumNames, Name.isValid name)
    (h : customScalarText? value = some text) : Delimited text.toList := by
  cases value with
  | null => exact Option.some.inj h ▸ delimited_name (by decide)
  | string s => exact Option.some.inj h ▸ delimited_quote s
  | int n => exact Option.some.inj h ▸ delimited_int n
  | float x => exact delimited_floatText h
  | boolean b => exact Option.some.inj h ▸ delimited_boolText b
  | enum name => exact Option.some.inj h ▸ delimited_name (hvalue name (by simp [Value.enumNames]))
  | list | object => cases h

theorem mem_of_findEnumValue? {values : OrderedMap String EnumValue} {raw : String}
    {found : EnumValue} (h : findEnumValue? values raw = some found) : found ∈ values.values := by
  rw [findEnumValue?, Option.or_eq_some_iff] at h
  rcases h with h | ⟨-, h⟩
  · exact List.mem_of_find?_eq_some h
  · exact OrderedMap.mem_values_iff.2 ⟨raw, h⟩

theorem delimited_enumLiteral {type : String} {values : OrderedMap String EnumValue} {value : Value}
    {text : String} (haliases : ∀ value ∈ values.values, Name.isValid value.aliasName)
    (h : enumLiteral type values value = .ok text) : Delimited text.toList := by
  have hname : ∀ raw, enumNameLiteral type values raw = .ok text → Delimited text.toList := by
    intro raw h
    unfold enumNameLiteral at h
    split at h
    · rename_i found hfound
      exact Except.ok.inj h ▸ delimited_name (haliases found (mem_of_findEnumValue? hfound))
    · cases h
  cases value with
  | string raw => exact hname raw h
  | enum raw => exact hname raw h
  | _ => cases h

section

variable {schema : Schema} (hnames : schema.NamesValid)
include hnames

theorem delimited_namedLiteral {input : InputLiteral}
    (hinput : ∀ type fields value text, (∀ key ∈ OrderedMap.keys fields, Name.isValid key) →
      (∀ name ∈ value.enumNames, Name.isValid name) → input type fields value = .ok text →
      Delimited text.toList)
    {name : String} {value : Value} {text : String}
    (hvalue : ∀ name ∈ value.enumNames, Name.isValid name)
    (h : namedLiteral schema input name value = .ok text) : Delimited text.toList := by
  unfold namedLiteral at h
  split at h
  · cases h
  · rename_i type hfound
    have hbody : ∀ name ∈ type.body.names, Name.isValid name := fun _ => hnames.body hfound
    split at h
    · unfold scalarLiteral at h
      split_ifs at h
      · exact delimited_builtinLiteral h
      · split at h
        · rename_i htext
          exact Except.ok.inj h ▸ delimited_customScalarText hvalue htext
        · cases h
    · rename_i values hcase
      rw [hcase, TypeBody.names, List.forall_mem_map] at hbody
      exact delimited_enumLiteral hbody h
    · rename_i fields imports hcase
      rw [hcase, TypeBody.names, FieldMap.names] at hbody
      exact hinput _ fields value text (fun key hkey => hbody key (List.mem_append_left _ hkey))
        hvalue h
    · cases h

theorem delimited_literalWith {input : InputLiteral}
    (hinput : ∀ type fields value text, (∀ key ∈ OrderedMap.keys fields, Name.isValid key) →
      (∀ name ∈ value.enumNames, Name.isValid name) → input type fields value = .ok text →
      Delimited text.toList)
    {type : TypeRef} {value : Value} {text : String}
    (hvalue : ∀ name ∈ value.enumNames, Name.isValid name)
    (h : literalWith schema input type value = .ok text) : Delimited text.toList := by
  have hnull : Delimited "null".toList := delimited_name (by decide)
  induction type generalizing value text with
  | named name =>
    cases value with
    | null => exact Except.ok.inj h ▸ hnull
    | _ => exact delimited_namedLiteral hnames hinput hvalue h
  | nonNull inner ih =>
    cases value with
    | null => exact Except.ok.inj h ▸ hnull
    | _ => exact ih hvalue h
  | list item ih =>
    cases value with
    | null => exact Except.ok.inj h ▸ hnull
    | list items =>
      obtain ⟨texts, htexts, hpure⟩ := bind_eq_ok_iff.1 h
      have hitems : ∀ text ∈ texts.map String.toList, Delimited text := by
        rw [List.forall_mem_map]
        intro text htext
        obtain ⟨item, hitem, hok⟩ := exists_of_mem_mapM htexts htext
        exact ih (fun name hname => hvalue name (Value.enumNames_subset_of_mem hitem hname)) hok
      rw [← Except.ok.inj hpure]
      simpa using (enclosed_intercalate hitems).list
    | _ => exact ih hvalue h

theorem delimited_inputLiteral {naming : Naming} (hnaming : naming.KeepsNames) {type : String}
    {fields : FieldMap} {value : Value} {text : String}
    (hkeys : ∀ key ∈ OrderedMap.keys fields, Name.isValid key)
    (hvalue : ∀ name ∈ value.enumNames, Name.isValid name)
    (h : inputLiteral schema naming type fields value = .ok text) : Delimited text.toList := by
  unfold inputLiteral at h
  split at h
  · rename_i key entry
    split at h
    · cases h
    · split at h
      · cases h
      · rename_i field hfield
        obtain ⟨single, hsingle, hpure⟩ := bind_eq_ok_iff.1 h
        rw [Value.enumNames_single] at hvalue
        have hkey := delimited_name
          (hnaming.field key (hkeys key (OrderedMap.mem_keys_of_get? hfield)))
        have hcolon : Enclosed [':', ' '] := fun _ => rfl
        have hentry : Delimited single.toList := by
          refine delimited_literalWith hnames (fun _ _ _ _ _ _ herror => ?_) hvalue hsingle
          cases herror
        rw [← Except.ok.inj hpure]
        simpa using ((hkey.enclosed.append hcolon).append hentry.enclosed).object
  · cases h
  · cases h

/-- A literal ends where a comma, a bracket, a blank or a line feed comes that it does not hold. -/
theorem delimited_literal {naming : Naming} (hnaming : naming.KeepsNames) {type : TypeRef}
    {value : Value} {text : String} (hvalue : ∀ name ∈ value.enumNames, Name.isValid name)
    (h : literal schema naming type value = .ok text) : Delimited text.toList :=
  delimited_literalWith hnames
    (fun _ _ _ _ hkeys hvalue => delimited_inputLiteral hnames hnaming hkeys hvalue) hvalue h

end

end GraphSchema.Sdl
