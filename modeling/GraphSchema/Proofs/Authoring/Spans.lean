import GraphSchema.Authoring.Check
import GraphSchema.Results

/-!
# Spans of names

The span of a name is where the text holds the name in one of its frames. So what an error of a
check points at is the name that the error is about.
-/

namespace GraphSchema

namespace Text

/-- The span lies in the text, begins and ends between characters, and has the bytes of the name. -/
structure Span.Covers (span : Span) (source name : String) : Prop where
  inside : span.offset + span.length ≤ source.utf8ByteSize
  begins : (⟨span.offset⟩ : String.Pos.Raw).IsValid source
  ends : (⟨span.offset + span.length⟩ : String.Pos.Raw).IsValid source
  bytes : source.toByteArray.extract span.offset (span.offset + span.length) = name.toByteArray

theorem covers_append (before name after : String) :
    Span.Covers ⟨before.utf8ByteSize, name.utf8ByteSize⟩ (before ++ name ++ after) name where
  inside := by
    simp only [String.utf8ByteSize_append]
    omega
  begins := by
    rw [String.append_assoc]
    exact String.Pos.Raw.isValid_rawEndPos.append_right _
  ends := by
    have hend : (before ++ name).rawEndPos = ⟨before.utf8ByteSize + name.utf8ByteSize⟩ := by
      rw [String.rawEndPos, String.utf8ByteSize_append]
    exact hend ▸ String.Pos.Raw.isValid_rawEndPos.append_right _
  bytes := by
    have hskip := ByteArray.extract_append_size_add (a := before.toByteArray)
      (b := name.toByteArray ++ after.toByteArray) (i := 0) (j := name.toByteArray.size)
    rw [Nat.add_zero] at hskip
    rw [String.append_assoc, String.toByteArray_append, String.toByteArray_append,
      ← String.size_toByteArray, ← String.size_toByteArray, hskip,
      ByteArray.extract_append_eq_left rfl]

theorem offsetOf?_eq_some {pattern text : List Char} {offset found : Nat}
    (h : offsetOf? pattern offset text = some found) :
    ∃ before after, text = before ++ pattern ++ after ∧
      found = offset + (String.ofList before).utf8ByteSize := by
  induction text generalizing offset with
  | nil =>
    rw [offsetOf?, Option.ite_none_right_eq_some, List.isEmpty_iff] at h
    obtain ⟨rfl, h⟩ := h
    exact ⟨[], [], rfl, (Option.some.inj h).symm⟩
  | cons c rest ih =>
    rw [offsetOf?] at h
    split at h
    · rename_i hprefix
      obtain ⟨after, hafter⟩ := List.isPrefixOf_iff_prefix.1 hprefix
      exact ⟨[], after, hafter.symm, (Option.some.inj h).symm⟩
    · obtain ⟨before, after, rfl, rfl⟩ := ih h
      refine ⟨c :: before, after, rfl, ?_⟩
      rw [String.ofList_cons, String.utf8ByteSize_append, String.utf8ByteSize_singleton,
        Nat.add_assoc]

theorem offsetOf?_isSome_iff {pattern text : List Char} {offset : Nat} :
    (offsetOf? pattern offset text).isSome ↔ pattern <:+: text := by
  induction text generalizing offset with
  | nil =>
    rw [List.infix_nil, offsetOf?]
    cases pattern <;> simp
  | cons c rest ih =>
    rw [List.infix_cons_iff, offsetOf?, ← List.isPrefixOf_iff_prefix, ← @ih (offset + c.utf8Size)]
    split <;> simp [*]

end Text

namespace Authoring

open Text

/-! ## Names in their frames -/

/-- The framed name stands somewhere in the text, or at its start if the frame asks for that. -/
def Frame.Holds (frame : Frame) (source name : List Char) : Prop :=
  let framed := frame.before.toList ++ name ++ frame.after.toList
  if frame.atStart then framed <+: source else framed <:+: source

theorem Frame.find?_isSome_iff {frame : Frame} {source name : List Char} :
    (frame.find? source name).isSome ↔ frame.Holds source name := by
  unfold Frame.find? Frame.Holds
  dsimp only
  split
  · rw [← List.isPrefixOf_iff_prefix]
    cases (frame.before.toList ++ name ++ frame.after.toList).isPrefixOf source <;> simp
  · rw [Option.isSome_map, offsetOf?_isSome_iff]

/-- What stands in front of the name is skipped. At the start of a text nothing may stand there. -/
theorem Frame.find?_eq_some {frame : Frame} {source name : List Char} {found : Nat}
    (hstart : frame.atStart → frame.before = "") (h : frame.find? source name = some found) :
    ∃ before after, source = before ++ name ++ after ∧
      found = (String.ofList before).utf8ByteSize := by
  unfold Frame.find? at h
  dsimp only at h
  split at h
  · rename_i hatStart
    rw [Option.ite_none_right_eq_some, hstart hatStart] at h
    obtain ⟨after, rfl⟩ := List.isPrefixOf_iff_prefix.1 h.1
    refine ⟨[], frame.after.toList ++ after, ?_, (Option.some.inj h.2).symm⟩
    rw [List.append_assoc, String.toList_empty]
  · obtain ⟨start, hoffset, rfl⟩ := Option.map_eq_some_iff.1 h
    obtain ⟨before, after, rfl, rfl⟩ := offsetOf?_eq_some hoffset
    refine ⟨before ++ frame.before.toList, frame.after.toList ++ after, ?_, ?_⟩
    · simp only [List.append_assoc]
    · rw [String.ofList_append, String.utf8ByteSize_append, String.ofList_toList, Nat.zero_add]

namespace Context

variable {context : Context} {name : String}

theorem covers_spanOf? {span : Span} (h : context.spanOf? name = some span) :
    span.Covers (String.ofList context.source) name := by
  have hstart : ∀ frame ∈ frames, frame.atStart → frame.before = "" := by decide
  rw [spanOf?, Option.ite_none_left_eq_some] at h
  obtain ⟨offset, hoffset, rfl⟩ := Option.map_eq_some_iff.1 h.2
  obtain ⟨frame, hframe, hfound⟩ := List.exists_of_findSome?_eq_some hoffset
  obtain ⟨before, after, hsource, rfl⟩ := Frame.find?_eq_some (hstart frame hframe) hfound
  rw [hsource, String.ofList_append, String.ofList_append, String.ofList_toList]
  exact covers_append _ _ _

theorem spanOf?_isSome_iff :
    (context.spanOf? name).isSome ↔
      name ≠ "" ∧ ∃ frame ∈ frames, frame.Holds context.source name.toList := by
  unfold spanOf?
  split
  · rename_i hempty
    simp [String.isEmpty_iff.1 hempty]
  · rename_i hempty
    rw [String.isEmpty_iff] at hempty
    rw [Option.isSome_map, List.findSome?_isSome_iff]
    simp only [Frame.find?_isSome_iff, hempty, ne_eq, not_false_eq_true, true_and]

end Context

end Authoring

/-! ## Errors of checks -/

/-- The name that the fault is about. -/
def ModuleFault.subject? : ModuleFault → Option String
  | typeTwice name | emptyUnion name | emptyEnum name => some name
  | valueTwice key _ => some key
  | other _ => none

def ModuleError.subject? : ModuleError → Option String
  | unreadable _ | malformed _ => none
  | invalid fault _ => fault.subject?
  | badName name _ _ _ => some name

/-- The error is about a name, and points at that name if it points anywhere. -/
def ModuleError.Located (source : String) (error : ModuleError) : Prop :=
  ∃ name, error.subject? = some name ∧ ∀ span ∈ error.span?, span.Covers source name

namespace Authoring

open Text Context

/-- If the check fails, then with an error that is located in the text. -/
def Locates {α : Type} (source : List Char) (check : Except ModuleError α) : Prop :=
  ∀ error, check = .error error → error.Located (String.ofList source)

namespace Locates

variable {α β : Type} {source : List Char}

theorem pure (value : α) : Locates source (.ok value) := nofun

theorem bind {check : Except ModuleError α} {next : α → Except ModuleError β}
    (h : Locates source check) (hnext : ∀ value, Locates source (next value)) :
    Locates source (check >>= next) := by
  intro error herror
  rcases bind_eq_error_iff.1 herror with hfirst | ⟨value, -, hrest⟩
  · exact h error hfirst
  · exact hnext value error hrest

theorem forM {check : α → Except ModuleError Unit} {items : List α}
    (h : ∀ item, Locates source (check item)) : Locates source (items.forM check) := by
  induction items with
  | nil => exact pure ()
  | cons item rest ih => exact bind (h item) fun _ => ih

end Locates

section

variable (context : Context)

theorem located_fault {fault : ModuleFault} {name : String} (h : fault.subject? = some name) :
    (context.fault fault name).Located (String.ofList context.source) :=
  ⟨name, h, fun _ hspan => covers_spanOf? hspan⟩

theorem locates_fault {α : Type} {fault : ModuleFault} {name : String}
    (h : fault.subject? = some name) :
    Locates context.source (.error (context.fault fault name) : Except ModuleError α) := by
  rintro _ ⟨⟩
  exact located_fault context h

theorem locates_checkName (name kind : String) :
    Locates context.source (context.checkName name kind) := by
  unfold checkName
  split
  · rintro _ ⟨⟩
    exact ⟨name, rfl, fun _ hspan => covers_spanOf? hspan⟩
  · exact .pure ()

theorem locates_checkDistinct (fault : String → ModuleFault)
    (h : ∀ name, (fault name).subject? = some name) (seen : List String)
    (names : List (String × String)) :
    Locates context.source (checkDistinct context fault seen names) := by
  induction names generalizing seen with
  | nil => exact .pure ()
  | cons first rest ih =>
    unfold checkDistinct
    refine .bind (locates_checkName context _ _) fun _ => ?_
    split
    · exact .bind (locates_fault context (h _)) fun _ => ih _
    · exact ih _

theorem locates_checkImports (imports : List FieldImport) :
    Locates context.source (checkImports context imports) := by
  refine .forM fun request => .bind (locates_checkName context _ _) fun _ => ?_
  split
  · exact locates_checkName context _ _
  · exact .pure ()

theorem locates_checkComposite (decl : CompositeDecl) :
    Locates context.source (checkComposite context decl) :=
  .bind (.forM fun _ => locates_checkName context _ _) fun _ =>
    .bind (locates_checkImports context _) fun _ =>
      .forM fun _ => .bind (locates_checkName context _ _) fun _ =>
        .forM fun _ => locates_checkName (context.push _) _ _

theorem locates_checkUnion (name : String) (decl : UnionDecl) :
    Locates context.source (checkUnion context name decl) := by
  unfold checkUnion
  have hmembers : Locates context.source
      (decl.members.forM ((context.push name).checkName · "union member")) :=
    .forM fun _ => locates_checkName (context.push name) _ _
  split
  · exact .bind (locates_fault context rfl) fun _ => hmembers
  · exact hmembers

theorem locates_checkEnum (name : String) (decl : EnumDecl) :
    Locates context.source (checkEnum context name decl) := by
  unfold checkEnum
  have hvalues := locates_checkDistinct (context.push name) (.valueTwice · name)
    (fun _ => rfl) []
  split
  · exact .bind (locates_fault context rfl) fun _ => hvalues _
  · exact hvalues _

theorem locates_checkInput (decl : InputDecl) :
    Locates context.source (checkInput context decl) :=
  .bind (locates_checkImports context _) fun _ =>
    .forM fun _ => .bind (locates_checkName context _ _) fun _ => locates_checkName context _ _

theorem locates_checkModule (m : SchemaModule) :
    Locates context.source (checkModule context m) :=
  .bind (locates_checkName context _ _) fun _ =>
  .bind (.forM fun _ => locates_checkName (context.push "schema") _ _) fun _ =>
  .bind (locates_checkDistinct context .typeTwice (fun _ => rfl) _ _) fun _ =>
  .bind (.forM fun _ => locates_checkComposite (context.push _) _) fun _ =>
  .bind (.forM fun _ => locates_checkComposite (context.push _) _) fun _ =>
  .bind (.forM fun _ => locates_checkUnion context _ _) fun _ =>
  .bind (.forM fun _ => locates_checkEnum context _ _) fun _ =>
    .forM fun _ => locates_checkInput (context.push _) _

end

/-- A text that is not read is no module at all, or has an error that is located in it. -/
theorem located_of_read {source : String} {error : ModuleError}
    (h : SchemaModule.read source = .error error) :
    (∃ cause, error = .malformed cause) ∨ error.Located source := by
  unfold SchemaModule.read at h
  split at h
  · exact .inl ⟨_, (Except.error.inj h).symm⟩
  · split at h
    · exact .inl ⟨_, (Except.error.inj h).symm⟩
    · rename_i m _
      have hcheck : checkModule { source := source.toList } m = .error error :=
        error_of_bind_pure h
      have hlocated := locates_checkModule _ _ error hcheck
      rw [String.ofList_toList] at hlocated
      exact .inr hlocated

/-- A span that is found covers its name, byte for byte. It is found if the name is not empty and
stands in the text in one of the frames. So the errors of every check, whatever the module, are
about names, and those that point anywhere point at the name. -/
theorem spans_cover_names :
    (∀ (context : Context) (name : String),
      (∀ span, context.spanOf? name = some span →
        span.Covers (String.ofList context.source) name) ∧
      ((context.spanOf? name).isSome ↔
        name ≠ "" ∧ ∃ frame ∈ frames, frame.Holds context.source name.toList)) ∧
    ∀ (context : Context) (m : SchemaModule) (error : ModuleError),
      checkModule context m = .error error → error.Located (String.ofList context.source) :=
  ⟨fun _ _ => ⟨fun _ => covers_spanOf?, spanOf?_isSome_iff⟩,
    fun context m error => locates_checkModule context m error⟩

def sizes : String :=
  "[module]\nname = \"shop\"\ndescription = \"Maße\"\n\n[unions.\"größe\"]\ntypes = []\n"

theorem spans_cover_names_sizes :
    let sized : SchemaModule := { name := "shop", unions := .ofList [("größe", {})] }
    let error : ModuleError := .badName "größe" "union" .badPart (some ⟨55, 7⟩)
    Span.Covers ⟨55, 7⟩ sizes "größe" ∧
      checkModule ⟨sizes.toList, []⟩ sized = .error error ∧ error.Located sizes ∧
      ModuleError.Located "name = 'ß'" (.badName "ß" "module" .badStart (some ⟨8, 2⟩)) := by
  intro sized error
  obtain ⟨hspans, hchecks⟩ := spans_cover_names
  have hspan : Context.spanOf? ⟨sizes.toList, []⟩ "größe" = some ⟨55, 7⟩ := by cbv
  have hcheck : checkModule ⟨sizes.toList, []⟩ sized = .error error := by cbv
  have hnamed : checkModule ⟨"name = 'ß'".toList, []⟩ { name := "ß" } =
      .error (.badName "ß" "module" .badStart (some ⟨8, 2⟩)) := by cbv
  have hcovers := (hspans _ _).1 _ hspan
  have hlocated := hchecks _ _ _ hcheck
  have hlocated' := hchecks _ _ _ hnamed
  rw [String.ofList_toList] at hcovers hlocated hlocated'
  exact ⟨hcovers, hcheck, hlocated, hlocated'⟩

end Authoring

end GraphSchema
