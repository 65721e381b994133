import GraphSchema.Proofs.Number.FloatText
import GraphSchema.Proofs.Sdl.Literals

/-!
# The table of literals

Which values a type takes as defaults, and how each of them prints. The writer of literals accepts
exactly the values of the table and prints what it says.
-/

namespace GraphSchema.Sdl

/-! ## Admissible values -/

/-- A string, an enum value, an integer, a boolean or a finite float. -/
inductive Single : Value → Prop where
  | string (s : String) : Single (.string s)
  | enum (name : String) : Single (.enum name)
  | int (n : Int) : Single (.int n)
  | boolean (b : Bool) : Single (.boolean b)
  | float {x : Double} (finite : x.isFinite) : Single (.float x)

/-- What a built-in scalar takes. -/
inductive Takes : String → Value → Prop where
  | string (s : String) : Takes "String" (.string s)
  | int {n : Int} (low : -2 ^ 31 ≤ n) (high : n ≤ 2 ^ 31 - 1) : Takes "Int" (.int n)
  | integral (n : Int) : Takes "Float" (.int n)
  | float {x : Double} (finite : x.isFinite) : Takes "Float" (.float x)
  | boolean (b : Bool) : Takes "Boolean" (.boolean b)
  | id {value : Value} (single : Single value) : Takes "ID" value

/-- What a type takes as a default. Objects, interfaces, unions and types that the schema does not
have take nothing but null. -/
inductive Admissible (schema : Schema) : TypeRef → Value → Prop where
  | null (type : TypeRef) : Admissible schema type .null
  | nonNull {inner : TypeRef} {value : Value} (admissible : Admissible schema inner value) :
    Admissible schema (.nonNull inner) value
  | list {item : TypeRef} {items : List Value}
      (admissible : ∀ value ∈ items, Admissible schema item value) :
    Admissible schema (.list item) (.list items)
  | item {item : TypeRef} {value : Value} (single : value.kind ≠ .list)
      (admissible : Admissible schema item value) : Admissible schema (.list item) value
  | builtin {name : String} {type : TypeDef} {value : Value}
      (found : schema.find? name = some type) (scalar : type.body = .scalar true)
      (takes : Takes type.name value) : Admissible schema (.named name) value
  | custom {name : String} {type : TypeDef} {value : Value}
      (found : schema.find? name = some type) (scalar : type.body = .scalar false)
      (single : Single value) : Admissible schema (.named name) value
  | enum {name raw : String} {type : TypeDef} {values : OrderedMap String EnumValue}
      {value : Value} (found : schema.find? name = some type) (enum : type.body = .enum values)
      (given : value = .string raw ∨ value = .enum raw)
      (known : (∃ v ∈ values.values, v.aliasName = raw) ∨ raw ∈ values.keys) :
    Admissible schema (.named name) value
  | input {name key : String} {type : TypeDef} {fields : FieldMap} {imports : List FieldImport}
      {field : Field} {entry : Value} (found : schema.find? name = some type)
      (input : type.body = .inputObject fields imports) (known : fields.get? key = some field)
      (single : entry.isSingle) (admissible : Admissible schema field.type entry) :
    Admissible schema (.named name) (.object [(key, entry)])

/-! ## Texts -/

/-- Values that print as they are. -/
inductive Bare : Value → String → Prop where
  | enum (name : String) : Bare (.enum name) name
  | int (n : Int) : Bare (.int n) (toString n)
  | boolean (b : Bool) : Bare (.boolean b) (if b then "true" else "false")
  | float {x : Double} (finite : x.isFinite) : Bare (.float x) (x.finiteText floatLayout)

/-- The literals of the built-in scalars. Identifiers are always quoted. -/
inductive ScalarRow : String → Value → String → Prop where
  | string (s : String) : ScalarRow "String" (.string s) (Text.quote s)
  | int {n : Int} (low : -2 ^ 31 ≤ n) (high : n ≤ 2 ^ 31 - 1) :
    ScalarRow "Int" (.int n) (toString n)
  | float {value : Value} {text : String} (number : value.kind = .int ∨ value.kind = .float)
      (bare : Bare value text) : ScalarRow "Float" value text
  | boolean {b : Bool} {text : String} (bare : Bare (.boolean b) text) :
    ScalarRow "Boolean" (.boolean b) text
  | idString (s : String) : ScalarRow "ID" (.string s) (Text.quote s)
  | id {value : Value} {text : String} (bare : Bare value text) :
    ScalarRow "ID" value (Text.quote text)

/-- The literals of the scalars that a schema defines. -/
inductive CustomRow : Value → String → Prop where
  | string (s : String) : CustomRow (.string s) (Text.quote s)
  | bare {value : Value} {text : String} (bare : Bare value text) : CustomRow value text

/-- An enum value prints its alias. A text that is an alias means that value, any other text the
value of that key. -/
inductive EnumRow (values : OrderedMap String EnumValue) : String → String → Prop where
  | aliased {value : EnumValue} (known : value ∈ values.values) :
    EnumRow values value.aliasName value.aliasName
  | keyed {raw : String} {value : EnumValue} (other : ∀ v ∈ values.values, v.aliasName ≠ raw)
      (known : values.get? raw = some value) : EnumRow values raw value.aliasName

/-- The literal of a value at a type. -/
inductive Row (schema : Schema) (naming : Naming) : TypeRef → Value → String → Prop where
  | null (type : TypeRef) : Row schema naming type .null "null"
  | nonNull {inner : TypeRef} {value : Value} {text : String}
      (row : Row schema naming inner value text) : Row schema naming (.nonNull inner) value text
  | list {item : TypeRef} {items : List Value} {texts : List String}
      (length : items.length = texts.length)
      (rows : ∀ pair ∈ items.zip texts, Row schema naming item pair.1 pair.2) :
    Row schema naming (.list item) (.list items) ("[" ++ String.intercalate ", " texts ++ "]")
  | item {item : TypeRef} {value : Value} {text : String} (single : value.kind ≠ .list)
      (row : Row schema naming item value text) : Row schema naming (.list item) value text
  | builtin {name text : String} {type : TypeDef} {value : Value}
      (found : schema.find? name = some type) (scalar : type.body = .scalar true)
      (row : ScalarRow type.name value text) : Row schema naming (.named name) value text
  | custom {name text : String} {type : TypeDef} {value : Value}
      (found : schema.find? name = some type) (scalar : type.body = .scalar false)
      (row : CustomRow value text) : Row schema naming (.named name) value text
  | enum {name raw text : String} {type : TypeDef} {values : OrderedMap String EnumValue}
      {value : Value} (found : schema.find? name = some type) (enum : type.body = .enum values)
      (given : value = .string raw ∨ value = .enum raw) (row : EnumRow values raw text) :
    Row schema naming (.named name) value text
  | input {name key text : String} {type : TypeDef} {fields : FieldMap}
      {imports : List FieldImport} {field : Field} {entry : Value}
      (found : schema.find? name = some type) (input : type.body = .inputObject fields imports)
      (known : fields.get? key = some field) (single : entry.isSingle)
      (row : Row schema naming field.type entry text) :
    Row schema naming (.named name) (.object [(key, entry)])
      ("\x7b" ++ naming.field key ++ ": " ++ text ++ "\x7d")

/-! ## Scalars -/

theorem isInt32_iff {n : Int} : isInt32 n = true ↔ -2 ^ 31 ≤ n ∧ n ≤ 2 ^ 31 - 1 := by
  unfold isInt32
  rw [Bool.and_eq_true, decide_eq_true_eq, decide_eq_true_eq]
  omega

theorem floatText?_eq_some_iff {x : Double} {text : String} :
    floatText? x = some text ↔ x.isFinite ∧ x.finiteText floatLayout = text := by
  unfold floatText?
  split
  · rename_i hfinite
    simp [hfinite]
  · rename_i hfinite
    simp [hfinite]

theorem floatText?_of_finite {x : Double} (finite : x.isFinite) :
    floatText? x = some (x.finiteText floatLayout) :=
  floatText?_eq_some_iff.2 ⟨finite, rfl⟩

theorem stringLiteral_eq_ok_iff {type text : String} {value : Value} :
    stringLiteral type value = .ok text ↔ ∃ s, value = .string s ∧ Text.quote s = text := by
  cases value <;> simp [stringLiteral]

theorem intLiteral_eq_ok_iff {type text : String} {value : Value} :
    intLiteral type value = .ok text ↔
      ∃ n, value = .int n ∧ isInt32 n = true ∧ toString n = text := by
  cases value with
  | int n => by_cases hrange : isInt32 n <;> simp [intLiteral, hrange]
  | _ => simp [intLiteral]

theorem booleanLiteral_eq_ok_iff {type text : String} {value : Value} :
    booleanLiteral type value = .ok text ↔ ∃ b, value = .boolean b ∧ boolText b = text := by
  cases value <;> simp [booleanLiteral]

theorem floatLiteral_eq_ok_iff {type text : String} {value : Value} :
    floatLiteral type value = .ok text ↔
      (∃ n, value = .int n ∧ toString n = text) ∨
        ∃ x, value = .float x ∧ floatText? x = some text := by
  cases value with
  | float x => cases hshown : floatText? x <;> simp [floatLiteral, hshown]
  | _ => simp [floatLiteral]

theorem idLiteral_eq_ok_iff {type text : String} {value : Value} :
    idLiteral type value = .ok text ↔
      (∃ s, value = .string s ∧ Text.quote s = text) ∨
        ∃ shown, Bare value shown ∧ Text.quote shown = text := by
  constructor
  · intro h
    cases value with
    | string s => exact .inl ⟨s, rfl, Except.ok.inj h⟩
    | enum name => exact .inr ⟨name, .enum name, Except.ok.inj h⟩
    | int n => exact .inr ⟨_, .int n, Except.ok.inj h⟩
    | boolean b => exact .inr ⟨_, .boolean b, Except.ok.inj h⟩
    | float x =>
      cases hshown : floatText? x with
      | none => simp [idLiteral, hshown] at h
      | some shown =>
        obtain ⟨finite, rfl⟩ := floatText?_eq_some_iff.1 hshown
        exact .inr ⟨_, .float finite, by simpa [idLiteral, hshown] using h⟩
    | null | list | object => cases h
  · rintro (⟨s, rfl, rfl⟩ | ⟨shown, bare, rfl⟩)
    · rfl
    · cases bare with
      | float finite => simp [idLiteral, floatText?_of_finite finite]
      | enum | int | boolean => rfl

/-- The built-in scalars follow their rows. -/
theorem builtinLiteral_eq_ok_iff {type text : String} {value : Value} :
    builtinLiteral type value = .ok text ↔ ScalarRow type value text := by
  constructor
  · intro h
    unfold builtinLiteral at h
    split_ifs at h with hstring hint hfloat hboolean hid
    · subst hstring
      obtain ⟨s, rfl, rfl⟩ := stringLiteral_eq_ok_iff.1 h
      exact .string s
    · subst hint
      obtain ⟨n, rfl, hrange, rfl⟩ := intLiteral_eq_ok_iff.1 h
      obtain ⟨low, high⟩ := isInt32_iff.1 hrange
      exact .int low high
    · subst hfloat
      rcases floatLiteral_eq_ok_iff.1 h with ⟨n, rfl, rfl⟩ | ⟨x, rfl, hshown⟩
      · exact .float (.inl rfl) (.int n)
      · obtain ⟨finite, rfl⟩ := floatText?_eq_some_iff.1 hshown
        exact .float (.inr rfl) (.float finite)
    · subst hboolean
      obtain ⟨b, rfl, rfl⟩ := booleanLiteral_eq_ok_iff.1 h
      exact .boolean (.boolean b)
    · subst hid
      rcases idLiteral_eq_ok_iff.1 h with ⟨s, rfl, rfl⟩ | ⟨shown, bare, rfl⟩
      · exact .idString s
      · exact .id bare
  · intro h
    unfold builtinLiteral
    cases h with
    | string s => simp [stringLiteral]
    | int low high => simp [intLiteral_eq_ok_iff, isInt32_iff.2 ⟨low, high⟩]
    | float number bare =>
      cases bare with
      | enum | boolean => simp [Value.kind] at number
      | int n => simp [floatLiteral_eq_ok_iff]
      | float finite => simp [floatLiteral_eq_ok_iff, floatText?_of_finite finite]
    | boolean bare =>
      cases bare
      simp [booleanLiteral, boolText]
    | idString s => simp [idLiteral_eq_ok_iff]
    | @id value shown bare =>
      have hid : idLiteral "ID" value = .ok (Text.quote shown) :=
        idLiteral_eq_ok_iff.2 (.inr ⟨shown, bare, rfl⟩)
      simpa using hid

theorem customScalarText?_eq_some_iff {value : Value} {text : String} (hnull : value ≠ .null) :
    customScalarText? value = some text ↔ CustomRow value text := by
  constructor
  · intro h
    cases value with
    | null => exact absurd rfl hnull
    | string s =>
      obtain rfl := Option.some.inj h
      exact .string s
    | enum name =>
      obtain rfl := Option.some.inj h
      exact .bare (.enum name)
    | int n =>
      obtain rfl := Option.some.inj h
      exact .bare (.int n)
    | boolean b =>
      obtain rfl := Option.some.inj h
      exact .bare (.boolean b)
    | float x =>
      obtain ⟨finite, rfl⟩ := floatText?_eq_some_iff.1 h
      exact .bare (.float finite)
    | list | object => cases h
  · intro h
    cases h with
    | string s => rfl
    | bare bare =>
      cases bare with
      | float finite => exact floatText?_of_finite finite
      | enum | int | boolean => rfl

/-! ## Enums -/

theorem enumNameLiteral_eq_ok_iff {type raw text : String}
    {values : OrderedMap String EnumValue} :
    enumNameLiteral type values raw = .ok text ↔ EnumRow values raw text := by
  unfold enumNameLiteral findEnumValue?
  cases halias : values.values.find? (·.aliasName == raw) with
  | some found =>
    -- An alias wins over a key, so the key of another value is not looked at.
    have hraw : found.aliasName = raw := by simpa using List.find?_some halias
    have hmem := List.mem_of_find?_eq_some halias
    subst hraw
    rw [Option.some_or]
    constructor
    · intro h
      obtain rfl := Except.ok.inj h
      exact .aliased hmem
    · intro h
      generalize hraw : found.aliasName = raw at h
      cases h with
      | aliased known => exact congrArg _ hraw
      | keyed other known => exact absurd hraw (other found hmem)
  | none =>
    have hother : ∀ v ∈ values.values, v.aliasName ≠ raw := by simpa using halias
    rw [Option.none_or]
    constructor
    · intro h
      cases hkey : values.get? raw with
      | none =>
        rw [hkey] at h
        cases h
      | some found =>
        rw [hkey] at h
        cases h
        exact .keyed hother hkey
    · intro h
      cases h with
      | aliased known => exact absurd rfl (hother _ known)
      | keyed other known => rw [known]

theorem enumLiteral_eq_ok_iff {type text : String} {values : OrderedMap String EnumValue}
    {value : Value} : enumLiteral type values value = .ok text ↔
      ∃ raw, (value = .string raw ∨ value = .enum raw) ∧ EnumRow values raw text := by
  cases value <;> simp [enumLiteral, enumNameLiteral_eq_ok_iff]

/-! ## Types -/

section Wrappers

variable (schema : Schema) (input : InputLiteral)

theorem literalWith_null (type : TypeRef) : literalWith schema input type .null = .ok "null" := by
  cases type <;> rfl

theorem literalWith_nonNull (inner : TypeRef) (value : Value) :
    literalWith schema input (.nonNull inner) value = literalWith schema input inner value := by
  cases value with
  | null => rw [literalWith_null, literalWith_null]
  | _ => rfl

theorem literalWith_item (item : TypeRef) {value : Value} (h : value.kind ≠ .list) :
    literalWith schema input (.list item) value = literalWith schema input item value := by
  cases value with
  | null => rw [literalWith_null, literalWith_null]
  | list => exact absurd rfl h
  | _ => rfl

theorem literalWith_named (name : String) {value : Value} (h : value ≠ .null) :
    literalWith schema input (.named name) value = namedLiteral schema input name value := by
  cases value with
  | null => exact absurd rfl h
  | _ => rfl

theorem literalWith_list_eq_ok_iff {item : TypeRef} {items : List Value} {text : String} :
    literalWith schema input (.list item) (.list items) = .ok text ↔
      ∃ texts, (items.length = texts.length ∧
        ∀ pair ∈ items.zip texts, literalWith schema input item pair.1 = .ok pair.2) ∧
        "[" ++ String.intercalate ", " texts ++ "]" = text := by
  rw [literalWith, bind_eq_ok_iff]
  simp only [mapM_eq_ok_iff, pure, Except.pure, Except.ok.injEq]

end Wrappers

/-! ## Soundness -/

section Soundness

variable {schema : Schema} {naming : Naming} {input : InputLiteral}
  (hinput : ∀ {name : String} {type : TypeDef} {fields : FieldMap} {imports : List FieldImport}
    {value : Value} {text : String}, schema.find? name = some type →
    type.body = .inputObject fields imports → input type.name fields value = .ok text →
    Row schema naming (.named name) value text)
include hinput

theorem row_of_namedLiteral {name text : String} {value : Value} (hnull : value ≠ .null)
    (h : namedLiteral schema input name value = .ok text) :
    Row schema naming (.named name) value text := by
  unfold namedLiteral at h
  split at h
  · cases h
  · rename_i type hfound
    split at h
    · rename_i builtin hbody
      unfold scalarLiteral at h
      cases builtin with
      | true => exact .builtin hfound hbody (builtinLiteral_eq_ok_iff.1 h)
      | false =>
        rw [if_neg Bool.false_ne_true] at h
        split at h
        · rename_i shown hshown
          obtain rfl := Except.ok.inj h
          exact .custom hfound hbody ((customScalarText?_eq_some_iff hnull).1 hshown)
        · cases h
    · rename_i values hbody
      obtain ⟨raw, hgiven, hrow⟩ := enumLiteral_eq_ok_iff.1 h
      exact .enum hfound hbody hgiven hrow
    · rename_i fields imports hbody
      exact hinput hfound hbody h
    · cases h

/-- Literals follow the table when those of input objects do. -/
theorem row_of_literalWith {type : TypeRef} {value : Value} {text : String}
    (h : literalWith schema input type value = .ok text) : Row schema naming type value text := by
  induction type generalizing value text with
  | named name =>
    -- Null has its literal before the name is looked up.
    by_cases hnull : value = .null
    · subst hnull
      obtain rfl := Except.ok.inj ((literalWith_null schema input (.named name)).symm.trans h)
      exact .null _
    · rw [literalWith_named schema input name hnull] at h
      exact row_of_namedLiteral hinput hnull h
  | nonNull inner ih =>
    rw [literalWith_nonNull] at h
    exact .nonNull (ih h)
  | list item ih =>
    by_cases hlist : value.kind = .list
    · cases value with
      | list items =>
        obtain ⟨texts, ⟨hlength, htexts⟩, rfl⟩ := (literalWith_list_eq_ok_iff schema input).1 h
        exact .list hlength fun pair hpair => ih (htexts pair hpair)
      | _ => cases hlist
    · rw [literalWith_item schema input item hlist] at h
      exact .item hlist (ih h)

end Soundness

theorem row_of_singleLiteral {schema : Schema} {naming : Naming} {type : TypeRef} {value : Value}
    {text : String} (h : singleLiteral schema type value = .ok text) :
    Row schema naming type value text :=
  row_of_literalWith (fun _ _ h => by cases h) h

theorem row_of_inputLiteral {schema : Schema} {naming : Naming} {name : String} {type : TypeDef}
    {fields : FieldMap} {imports : List FieldImport} {value : Value} {text : String}
    (hfound : schema.find? name = some type) (hbody : type.body = .inputObject fields imports)
    (h : inputLiteral schema naming type.name fields value = .ok text) :
    Row schema naming (.named name) value text := by
  unfold inputLiteral at h
  split at h
  · rename_i key entry
    split at h
    · cases h
    · rename_i hsingle
      split at h
      · cases h
      · rename_i field hfield
        obtain ⟨shown, hshown, hpure⟩ := bind_eq_ok_iff.1 h
        obtain rfl := Except.ok.inj hpure
        exact .input hfound hbody hfield (by simpa using hsingle) (row_of_singleLiteral hshown)
  · cases h
  · cases h

theorem row_of_literal {schema : Schema} {naming : Naming} {type : TypeRef} {value : Value}
    {text : String} (h : literal schema naming type value = .ok text) :
    Row schema naming type value text :=
  row_of_literalWith row_of_inputLiteral h

/-! ## Completeness -/

section Completeness

variable {schema : Schema} {naming : Naming}

theorem inputLiteral_of_isSingle {type : String} {fields : FieldMap} {value : Value}
    (h : value.isSingle) : inputLiteral schema naming type fields value =
      .error (mismatch type .inputObject value) := by
  cases value with
  | list | object => cases h
  | _ => rfl

/-- Inside an input object a single value prints as it does outside. -/
theorem singleLiteral_of_isSingle {type : TypeRef} {value : Value} (h : value.isSingle) :
    singleLiteral schema type value = literal schema naming type value := by
  unfold singleLiteral literal
  induction type with
  | named name =>
    by_cases hnull : value = .null
    · rw [hnull, literalWith_null, literalWith_null]
    · rw [literalWith_named schema _ name hnull, literalWith_named schema _ name hnull]
      simp only [namedLiteral, inputLiteral_of_isSingle h]
  | nonNull inner ih => rw [literalWith_nonNull, literalWith_nonNull, ih]
  | list item ih =>
    have hlist : value.kind ≠ .list := by
      intro hkind
      cases value with
      | list items => cases h
      | _ => cases hkind
    rw [literalWith_item schema _ item hlist, literalWith_item schema _ item hlist, ih]

theorem ScalarRow.ne_null {type text : String} {value : Value} (h : ScalarRow type value text) :
    value ≠ .null := by
  rintro rfl
  cases h with
  | float number bare => cases bare
  | id bare => cases bare

theorem CustomRow.ne_null {value : Value} {text : String} (h : CustomRow value text) :
    value ≠ .null := by
  rintro rfl
  cases h with
  | bare bare => cases bare

theorem literal_of_row {type : TypeRef} {value : Value} {text : String}
    (h : Row schema naming type value text) : literal schema naming type value = .ok text := by
  unfold literal
  induction h with
  | null type => exact literalWith_null _ _ type
  | nonNull row ih => rw [literalWith_nonNull, ih]
  | list length rows ih => exact (literalWith_list_eq_ok_iff _ _).2 ⟨_, ⟨length, ih⟩, rfl⟩
  | item single row ih => rw [literalWith_item _ _ _ single, ih]
  | builtin found scalar row =>
    rw [literalWith_named _ _ _ row.ne_null]
    simpa [namedLiteral, found, scalar, scalarLiteral] using builtinLiteral_eq_ok_iff.2 row
  | custom found scalar row =>
    rw [literalWith_named _ _ _ row.ne_null]
    have htext := (customScalarText?_eq_some_iff row.ne_null).2 row
    simp [namedLiteral, found, scalar, scalarLiteral, htext]
  | enum found enum given row =>
    rw [literalWith_named _ _ _ (by rcases given with rfl | rfl <;> simp)]
    simpa [namedLiteral, found, enum] using enumLiteral_eq_ok_iff.2 ⟨_, given, row⟩
  | input found input known single row ih =>
    rw [literalWith_named _ _ _ (by simp)]
    have hentry := (singleLiteral_of_isSingle single).trans ih
    simp [namedLiteral, found, input, inputLiteral, single, known, hentry]

/-- The writer of literals follows the table. -/
theorem literal_eq_ok_iff {type : TypeRef} {value : Value} {text : String} :
    literal schema naming type value = .ok text ↔ Row schema naming type value text :=
  ⟨row_of_literal, literal_of_row⟩

end Completeness

/-! ## Which values have a row -/

section Rows

variable {schema : Schema} {naming : Naming}

theorem Bare.single {value : Value} {text : String} (h : Bare value text) : Single value := by
  cases h with
  | enum => exact .enum _
  | int n => exact .int n
  | boolean b => exact .boolean b
  | float finite => exact .float finite

theorem ScalarRow.takes {type text : String} {value : Value} (h : ScalarRow type value text) :
    Takes type value := by
  cases h with
  | string s => exact .string s
  | int low high => exact .int low high
  | float number bare =>
    cases bare with
    | int n => exact .integral n
    | float finite => exact .float finite
    | enum | boolean => simp [Value.kind] at number
  | boolean bare => exact .boolean _
  | idString s => exact .id (.string s)
  | id bare => exact .id bare.single

theorem CustomRow.single {value : Value} {text : String} (h : CustomRow value text) :
    Single value := by
  cases h with
  | string s => exact .string s
  | bare bare => exact bare.single

theorem EnumRow.known {values : OrderedMap String EnumValue} {raw text : String}
    (h : EnumRow values raw text) :
    (∃ v ∈ values.values, v.aliasName = raw) ∨ raw ∈ values.keys := by
  cases h with
  | aliased known => exact .inl ⟨_, known, rfl⟩
  | keyed other known => exact .inr (OrderedMap.mem_keys_of_get? known)

theorem admissible_of_row {type : TypeRef} {value : Value} {text : String}
    (h : Row schema naming type value text) : Admissible schema type value := by
  induction h with
  | null type => exact .null type
  | nonNull row ih => exact .nonNull ih
  | list length rows ih =>
    refine .list fun value hvalue => ?_
    rw [← List.map_fst_zip length.le, List.mem_map] at hvalue
    obtain ⟨pair, hpair, rfl⟩ := hvalue
    exact ih pair hpair
  | item single row ih => exact .item single ih
  | builtin found scalar row => exact .builtin found scalar row.takes
  | custom found scalar row => exact .custom found scalar row.single
  | enum found enum given row => exact .enum found enum given row.known
  | input found input known single row ih => exact .input found input known single ih

theorem Single.exists_customRow {value : Value} (h : Single value) :
    ∃ text, CustomRow value text := by
  cases h with
  | string s => exact ⟨_, .string s⟩
  | enum name => exact ⟨_, .bare (.enum name)⟩
  | int n => exact ⟨_, .bare (.int n)⟩
  | boolean b => exact ⟨_, .bare (.boolean b)⟩
  | float finite => exact ⟨_, .bare (.float finite)⟩

theorem Takes.exists_scalarRow {type : String} {value : Value} (h : Takes type value) :
    ∃ text, ScalarRow type value text := by
  cases h with
  | string s => exact ⟨_, .string s⟩
  | int low high => exact ⟨_, .int low high⟩
  | integral n => exact ⟨_, .float (.inl rfl) (.int n)⟩
  | float finite => exact ⟨_, .float (.inr rfl) (.float finite)⟩
  | boolean b => exact ⟨_, .boolean (.boolean b)⟩
  | id single =>
    obtain ⟨text, row⟩ := single.exists_customRow
    cases row with
    | string s => exact ⟨_, .idString s⟩
    | bare bare => exact ⟨_, .id bare⟩

theorem exists_enumRow {values : OrderedMap String EnumValue} {raw : String}
    (h : (∃ v ∈ values.values, v.aliasName = raw) ∨ raw ∈ values.keys) :
    ∃ text, EnumRow values raw text := by
  by_cases halias : ∃ v ∈ values.values, v.aliasName = raw
  · obtain ⟨v, hv, rfl⟩ := halias
    exact ⟨_, .aliased hv⟩
  · have hkey := OrderedMap.contains_iff.2 (h.resolve_left halias)
    obtain ⟨value, hvalue⟩ := Option.isSome_iff_exists.1 hkey
    exact ⟨_, .keyed (fun v hv heq => halias ⟨v, hv, heq⟩) hvalue⟩

theorem exists_row_of_admissible {type : TypeRef} {value : Value}
    (h : Admissible schema type value) : ∃ text, Row schema naming type value text := by
  induction h with
  | null type => exact ⟨_, .null type⟩
  | nonNull admissible ih =>
    obtain ⟨text, row⟩ := ih
    exact ⟨_, .nonNull row⟩
  | list admissible ih =>
    obtain ⟨texts, length, rows⟩ := exists_zip ih
    exact ⟨_, .list length rows⟩
  | item single admissible ih =>
    obtain ⟨text, row⟩ := ih
    exact ⟨_, .item single row⟩
  | builtin found scalar takes =>
    obtain ⟨text, row⟩ := takes.exists_scalarRow
    exact ⟨_, .builtin found scalar row⟩
  | custom found scalar single =>
    obtain ⟨text, row⟩ := single.exists_customRow
    exact ⟨_, .custom found scalar row⟩
  | enum found enum given known =>
    obtain ⟨text, row⟩ := exists_enumRow known
    exact ⟨_, .enum found enum given row⟩
  | input found input known single admissible ih =>
    obtain ⟨text, row⟩ := ih
    exact ⟨_, .input found input known single row⟩

end Rows

/-- The values of the table have literals, and no others. Each literal is the one of the table, and
a float among them is the text of a number that rounds to that float. -/
theorem literal_follows_table (schema : Schema) (naming : Naming) (type : TypeRef)
    (value : Value) :
    ((∃ text, literal schema naming type value = .ok text) ↔ Admissible schema type value) ∧
      (∀ text, literal schema naming type value = .ok text ↔ Row schema naming type value text) ∧
      ∀ x : Double, x.Writes (x.finiteText floatLayout).toList := by
  refine ⟨⟨?_, fun h => ?_⟩, fun text => literal_eq_ok_iff, Double.writes_finiteText floatLayout⟩
  · rintro ⟨text, h⟩
    exact admissible_of_row (row_of_literal h)
  · obtain ⟨text, row⟩ := exists_row_of_admissible h
    exact ⟨text, literal_of_row row⟩

end GraphSchema.Sdl
