import GraphSchema.Proofs.Lint
import GraphSchema.Proofs.Lowering.Declarations

/-!
# Names of lowered schemas

What an accepted module names is named by identifiers, so a lowered schema has valid names, but for
some of its types. The name of a type has none of the underscores of its identifier. If a digit or
nothing stands behind those at the start, it is no name.
-/

namespace GraphSchema

namespace Name

open GraphSchema.Text

/-! ## Names of types -/

/-- The flaw of the name that an identifier makes, in which no underscore stands before the first
letter or digit. -/
def leadFlaw? (identifier : String) : Option Flaw :=
  match identifier.toList.dropWhile (· == '_') with
  | [] => some .empty
  | c :: _ => if c.isAlpha then none else some .badStart

/-- Underscores at the start leave nothing behind. -/
theorem pascalChars_dropWhile (text : List Char) :
    pascalChars (text.dropWhile (· == '_')) = pascalChars text := by
  induction text with
  | nil => rfl
  | cons c rest ih =>
    by_cases hc : c = '_'
    · subst hc
      have hsplit : split '_' ('_' :: rest) = [] :: split '_' rest := if_pos rfl
      rw [List.dropWhile_cons_of_pos rfl, ih, pascalChars, pascalChars, hsplit]
      rfl
    · rw [List.dropWhile_cons_of_neg (by simpa using hc)]

theorem pascalChars_cons {c : Char} {rest : List Char} (hc : c.isAlphanum)
    (hrest : ∀ d ∈ rest, isPart d) :
    ∃ tail, pascalChars (c :: rest) = c.toUpper :: tail ∧ ∀ d ∈ tail, isPart d := by
  have hne : c ≠ '_' := by
    rintro rfl
    revert hc
    decide
  have hwords : ∀ word ∈ split '_' (c :: rest), ∀ d ∈ word, d.isAlphanum := by
    intro word hword d hd
    obtain ⟨hmem, hother⟩ := mem_split hword hd
    rcases List.mem_cons.1 hmem with rfl | hmem
    · exact hc
    · exact isAlphanum_of_isPart (hrest d hmem) hother
  obtain ⟨part, parts, hsplit⟩ : ∃ part parts, split '_' (c :: rest) = (c :: part) :: parts :=
    split_cons_of_ne hne
  rw [hsplit, List.forall_mem_cons] at hwords
  refine ⟨part ++ parts.flatMap capitalize, ?_, ?_⟩
  · rw [pascalChars, hsplit, List.flatMap_cons, capitalize,
      upper_of_ascii (toNat_lt_of_isAlphanum hc)]
    rfl
  · intro d hd
    refine isPart_of_isAlphanum ?_
    rcases List.mem_append.1 hd with hd | hd
    · exact hwords.1 d (List.mem_cons_of_mem c hd)
    · obtain ⟨word, hword, hd⟩ := List.mem_flatMap.1 hd
      exact isAlphanum_capitalize (hwords.2 word hword) d hd

/-- Behind the underscores at the start, the first letter or digit leads. -/
theorem pascalChars_of_dropWhile {text rest : List Char} {c : Char} (h : ∀ d ∈ text, isPart d)
    (hlead : text.dropWhile (· == '_') = c :: rest) :
    c.isAlphanum ∧ ∃ tail, pascalChars text = c.toUpper :: tail ∧ ∀ d ∈ tail, isPart d := by
  have hsuffix : ∀ d ∈ c :: rest, isPart d := fun d hd =>
    h d ((List.dropWhile_suffix _).subset (hlead ▸ hd))
  rw [List.forall_mem_cons] at hsuffix
  have hc := isAlphanum_of_isPart hsuffix.1 (ne_of_dropWhile hlead)
  rw [← pascalChars_dropWhile, hlead]
  exact ⟨hc, pascalChars_cons hc hsuffix.2⟩

theorem isStart_toUpper {c : Char} (h : c.isAlphanum) : isStart c.toUpper = c.isAlpha := by
  have hall : ∀ n < 128, (Char.ofNat n).isAlphanum →
      isStart (Char.ofNat n).toUpper = (Char.ofNat n).isAlpha := by decide
  exact forall_ascii (P := fun c => c.isAlphanum → isStart c.toUpper = c.isAlpha) hall
    (toNat_lt_of_isAlphanum h) h

theorem flaw?_pascal {identifier : String} (h : ∀ c ∈ identifier.toList, isPart c) :
    flaw? (pascal identifier) = leadFlaw? identifier := by
  unfold flaw? pascal leadFlaw?
  rw [String.toList_ofList]
  cases hlead : identifier.toList.dropWhile (· == '_') with
  | nil =>
    rw [← pascalChars_dropWhile, hlead]
    rfl
  | cons c rest =>
    obtain ⟨hc, tail, heq, htail⟩ := pascalChars_of_dropWhile h hlead
    rw [heq, flawOf?, isStart_toUpper hc, List.all_eq_true.2 htail]
    dsimp only
    cases c.isAlpha <;> rfl

/-- The other names of built-in scalars begin with letters, too. -/
theorem flaw?_typeName {identifier : String} (h : IsIdentifier identifier) :
    flaw? (typeName identifier) = leadFlaw? identifier := by
  unfold typeName
  split_ifs with hstring hint hfloat hboolean hid
  · subst hstring; rfl
  · obtain rfl | rfl := hint <;> rfl
  · subst hfloat; rfl
  · obtain rfl | rfl := hboolean <;> rfl
  · subst hid; rfl
  · exact flaw?_pascal (isPart_of_isIdentifier h)

end Name

namespace Lowering

open Lint (nameErrors)
open Name (IsIdentifier)

/-! ## Names of fields -/

structure FieldNamed (field : Field) : Prop where
  name : IsIdentifier field.name
  arguments : ∀ argument ∈ field.arguments.values, IsIdentifier argument.name

theorem fieldNamed_fieldsOf {α : Type} {parent : String} {lower : String → α → Field}
    {fields : OrderedMap String α}
    (h : ∀ entry ∈ fields.entries, FieldNamed (lower entry.1 entry.2)) :
    ∀ field ∈ (fieldsOf parent lower fields).values, FieldNamed field := by
  unfold fieldsOf OrderedMap.values OrderedMap.mapValues
  rw [List.map_map, List.forall_mem_map]
  exact fun entry hentry => ⟨(h entry hentry).name, (h entry hentry).arguments⟩

theorem fieldNamed_composite {decl : CompositeDecl} (h : decl.WellFormed) (parent : String) :
    ∀ made ∈ (fieldsOf parent field decl.fields).values, FieldNamed made := by
  refine fieldNamed_fieldsOf fun entry hentry => ⟨?_, ?_⟩
  · exact h.fields entry.1 (List.mem_map_of_mem hentry)
  · have harguments := h.arguments entry.2 (List.mem_map_of_mem hentry)
    simp only [field, OrderedMap.values, OrderedMap.mapValues, OrderedMap.keys, List.map_map,
      List.forall_mem_map] at harguments ⊢
    exact harguments

theorem fieldNamed_input {decl : InputDecl} (h : decl.WellFormed) (parent : String) :
    ∀ field ∈ (fieldsOf parent inputField decl.fields).values, FieldNamed field :=
  fieldNamed_fieldsOf fun entry hentry =>
    ⟨h.fields entry.1 (List.mem_map_of_mem hentry), fun _ h => absurd h List.not_mem_nil⟩

theorem fieldNamed_typesOf {m : SchemaModule} (h : m.WellFormed) :
    ∀ type ∈ typesOf m, ∀ field ∈ type.fieldList, FieldNamed field := by
  rw [typesOf_eq_map, List.forall_mem_map]
  rintro ⟨name, content⟩ hdeclared
  have hcontent := h.contents _ hdeclared
  cases content with
  | object decl => exact fieldNamed_composite hcontent _
  | interface decl => exact fieldNamed_composite hcontent _
  | input decl => exact fieldNamed_input hcontent _
  | union | enum | scalar => exact fun _ h => absurd h List.not_mem_nil

/-! ## Errors of names -/

theorem nameErrors_of_isIdentifier {name : String} (h : IsIdentifier name) (node : NodeId) :
    nameErrors (name, node) = [] := by
  have hflaw : Name.flaw? name = none :=
    Option.isNone_iff_eq_none.1 (Name.isValid_iff_isIdentifier.2 h)
  cases node <;> simp [nameErrors, hflaw]

theorem nameErrors_type (name type : String) :
    nameErrors (name, .type type) =
      ((Name.flaw? name).map (.invalidName name (.type type))).toList := by
  simp only [nameErrors]
  cases Name.flaw? name <;> rfl

theorem fieldErrors_eq_nil {field : Field} (h : FieldNamed field) (type : TypeDef) :
    (fieldNodes type field).flatMap nameErrors = [] := by
  unfold fieldNodes
  rw [List.flatMap_cons, nameErrors_of_isIdentifier h.name, List.nil_append, List.flatMap_map,
    List.flatMap_eq_nil_iff]
  exact fun argument hargument => nameErrors_of_isIdentifier (h.arguments argument hargument) _

/-- Of a type with named fields, only its own name can be wrong. -/
theorem typeErrors_eq {type : TypeDef} (h : ∀ field ∈ type.fieldList, FieldNamed field) :
    (typeNodes type).flatMap nameErrors = nameErrors (type.name, .type type.name) := by
  have hfields : (type.fieldList.flatMap (fieldNodes type)).flatMap nameErrors = [] := by
    rw [List.flatMap_assoc, List.flatMap_eq_nil_iff]
    exact fun field hfield => fieldErrors_eq_nil (h field hfield) type
  have hvalues : (type.enumValues.map fun v => (v.key, .enumValue type.name v.key)).flatMap
      nameErrors = [] := by
    rw [List.flatMap_map, List.flatMap_eq_nil_iff]
    exact fun _ _ => rfl
  unfold typeNodes
  rw [List.flatMap_append, List.flatMap_cons, hfields, hvalues, List.append_nil, List.append_nil]

theorem isIdentifier_declarations {modules : List SchemaModule} (h : ∀ m ∈ modules, m.WellFormed) :
    ∀ d ∈ declarations modules, IsIdentifier d.identifier := by
  unfold declarations
  rw [List.forall_mem_flatMap]
  intro m hm
  rw [List.forall_mem_map]
  exact (h m hm).identifiers

theorem naming_of_run {modules : List SchemaModule} {schema : Schema}
    (h : ∀ m ∈ modules, m.WellFormed) (hrun : run modules = .ok schema) :
    Lint.naming.check schema = (declarations modules).filterMap fun d =>
      (Name.leadFlaw? d.identifier).map (.invalidName d.typeName (.type d.typeName)) := by
  have htypes : ∀ type ∈ modules.flatMap typesOf,
      (typeNodes type).flatMap nameErrors = nameErrors (type.name, .type type.name) := by
    rw [List.forall_mem_flatMap]
    exact fun m hm type htype => typeErrors_eq (fieldNamed_typesOf (h m hm) type htype)
  have hflaws : ∀ d ∈ declarations modules, nameErrors (d.typeName, .type d.typeName) =
      ((Name.leadFlaw? d.identifier).map (.invalidName d.typeName (.type d.typeName))).toList := by
    intro d hd
    rw [nameErrors_type, Declaration.typeName,
      Name.flaw?_typeName (isIdentifier_declarations h d hd)]
  calc Lint.naming.check schema
    _ = ((modules.flatMap typesOf).flatMap typeNodes).flatMap nameErrors := by
      rw [← authored_of_run hrun]
      rfl
    _ = (modules.flatMap typesOf).flatMap fun type => nameErrors (type.name, .type type.name) := by
      rw [List.flatMap_assoc]
      exact List.flatMap_congr htypes
    _ = (declarations modules).flatMap fun d => nameErrors (d.typeName, .type d.typeName) := by
      rw [← List.flatMap_map Declaration.typeName fun name => nameErrors (name, .type name),
        ← names_flatMap_typesOf, List.flatMap_map]
    _ = _ := by
      rw [List.filterMap_eq_flatMap_toList]
      exact List.flatMap_congr hflaws

/-- What stands behind the underscores at the start of an identifier decides whether it makes a
name. Of the schema of accepted modules, the lint reports the types whose identifiers make none, and
nothing else. -/
theorem naming_reports_leads {modules : List SchemaModule} {schema : Schema}
    (haccepted : ∀ m ∈ modules, ∃ context, Authoring.checkModule context m = .ok ())
    (hrun : run modules = .ok schema) :
    (∀ identifier, IsIdentifier identifier →
      Name.flaw? (Name.typeName identifier) = Name.leadFlaw? identifier) ∧
    (Lint.naming.check schema = (declarations modules).filterMap fun d =>
      (Name.leadFlaw? d.identifier).map (.invalidName d.typeName (.type d.typeName))) ∧
    (Lint.naming.check schema = [] ↔
      ∀ d ∈ declarations modules, Name.leadFlaw? d.identifier = none) := by
  have hwell : ∀ m ∈ modules, m.WellFormed := by
    intro m hm
    obtain ⟨context, hchecked⟩ := haccepted m hm
    exact (Authoring.checkModule_eq_ok_iff.1 hchecked).1
  have hcheck := naming_of_run hwell hrun
  refine ⟨fun _ => Name.flaw?_typeName, hcheck, ?_⟩
  rw [hcheck, List.filterMap_eq_nil_iff]
  simp only [Option.map_eq_none_iff]

def stamps : SchemaModule where
  name := "stamps"
  scalars := .ofList [("date_time", {}), ("_day", {}), ("_2nd", {})]

theorem naming_reports_leads_stamps :
    ∃ schema, run [stamps] = .ok schema ∧
      Lint.naming.check schema = [.invalidName "2nd" (.type "2nd") .badStart] := by
  have haccepted : ∀ m ∈ [stamps], ∃ context, Authoring.checkModule context m = .ok () := by
    rw [List.forall_mem_singleton]
    exact ⟨⟨[], []⟩, by cbv⟩
  obtain ⟨schema, hrun⟩ := isOk_iff.1 (show (run [stamps]).isOk by cbv)
  obtain ⟨-, hcheck, -⟩ := naming_reports_leads haccepted hrun
  refine ⟨schema, hrun, ?_⟩
  rw [hcheck]
  cbv

/-- An identifier need not make a name, and the lint may find fault with accepted modules. -/
theorem accepted_identifier_invalid :
    ¬ (∀ identifier, IsIdentifier identifier → Name.isValid (Name.typeName identifier)) ∧
    ¬ ∀ (modules : List SchemaModule) (schema : Schema),
      (∀ m ∈ modules, ∃ context, Authoring.checkModule context m = .ok ()) →
        run modules = .ok schema → Lint.naming.check schema = [] := by
  constructor
  · intro h
    have hvalid := h "_" ⟨'_', [], rfl, .inr rfl, List.forall_mem_nil _⟩
    revert hvalid
    decide
  · intro h
    let blank : SchemaModule := { name := "blank", scalars := .ofList [("_", {}), ("_1", {})] }
    obtain ⟨schema, hrun⟩ := isOk_iff.1 (show (run [blank]).isOk by cbv)
    have hnone := h [blank] schema
      (List.forall_mem_singleton.2 ⟨⟨[], []⟩, by cbv⟩) hrun
    have hfound : (run [blank]).toOption.map Lint.naming.check =
      some [.invalidName "" (.type "") .empty, .invalidName "1" (.type "1") .badStart] := by cbv
    rw [hrun] at hfound
    cases hnone.symm.trans (Option.some.inj hfound)

end Lowering

end GraphSchema
