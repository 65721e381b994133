import GraphSchema.Proofs.Sdl.Delimited
import GraphSchema.Proofs.Sdl.Document
import GraphSchema.Proofs.Sdl.Escaping

/-!
# Reading the parts of a line

Names, references to types, default values and deprecations can be read back one after the other,
since none of them goes on with a character that the next one starts with. Lists of them keep their
items apart, and a description ends at the first line of three quotes.
-/

namespace GraphSchema.Sdl

open Text

/-! ## Names and types -/

theorem readable_name :
    Readable (fun name => Name.isValid name) String.toList
      (Starts fun c => Name.isPart c = false) := by
  intro a b ha hb r s hr hs h
  obtain ⟨htext, hrest⟩ := readable_chars Name.isPart (Name.isPart_of_isValid ha)
    (Name.isPart_of_isValid hb) hr hs h
  exact ⟨String.toList_inj.1 htext, hrest⟩

theorem starts_name {name : String} (h : Name.isValid name) :
    Starts (fun c => Name.isStart c = true) name.toList := by
  obtain ⟨c, rest, htext, hstart, -⟩ := Name.isValid_iff.1 h
  exact ⟨c, rest, htext, hstart⟩

/-- The characters of references to types. -/
def isTypePart (c : Char) : Bool := Name.isPart c || c ∈ ['!', '[', ']']

theorem toList_text_nonNull (inner : TypeRef) :
    (TypeRef.nonNull inner).text.toList = inner.text.toList ++ ['!'] := by
  simp [TypeRef.text]

theorem toList_text_list (item : TypeRef) :
    (TypeRef.list item).text.toList = '[' :: item.text.toList ++ [']'] := by
  simp [TypeRef.text]

theorem isTypePart_of_mem_text {type : TypeRef} (h : Name.isValid type.baseName) :
    ∀ c ∈ type.text.toList, isTypePart c := by
  induction type with
  | named name =>
    intro c hc
    simp [isTypePart, Name.isPart_of_isValid h c hc]
  | nonNull inner ih =>
    rw [toList_text_nonNull, List.forall_mem_append, List.forall_mem_singleton]
    exact ⟨ih h, by decide⟩
  | list item ih =>
    rw [toList_text_list, List.forall_mem_append, List.forall_mem_cons, List.forall_mem_singleton]
    exact ⟨⟨by decide, ih h⟩, by decide⟩

/-- Markers stand at the end of a reference, and no name ends with one. -/
theorem text_typeRef_injective {type other : TypeRef} (h : Name.isValid type.baseName)
    (h' : Name.isValid other.baseName) (heq : type.text.toList = other.text.toList) :
    type = other := by
  have hmark : ∀ {name : String} {text : List Char} {c : Char}, Name.isValid name →
      Name.isPart c = false → name.toList ≠ text ++ [c] := by
    intro name text c hname hc heq
    have hmem : c ∈ name.toList := heq ▸ List.mem_append_right _ List.mem_cons_self
    rw [Name.isPart_of_isValid hname c hmem] at hc
    cases hc
  induction type generalizing other with
  | named name =>
    cases other with
    | named name' => exact congrArg TypeRef.named (String.toList_inj.1 heq)
    | nonNull inner => exact absurd (heq.trans (toList_text_nonNull inner)) (hmark h (by decide))
    | list item => exact absurd (heq.trans (toList_text_list item)) (hmark h (by decide))
  | nonNull inner ih =>
    rw [toList_text_nonNull] at heq
    cases other with
    | named name => exact absurd heq.symm (hmark h' (by decide))
    | nonNull inner' =>
      rw [toList_text_nonNull] at heq
      exact congrArg TypeRef.nonNull (ih h h' (List.append_cancel_right heq))
    | list item =>
      rw [toList_text_list] at heq
      cases List.append_inj_right' heq rfl
  | list item ih =>
    rw [toList_text_list] at heq
    cases other with
    | named name => exact absurd heq.symm (hmark h' (by decide))
    | nonNull inner =>
      rw [toList_text_nonNull] at heq
      cases List.append_inj_right' heq rfl
    | list item' =>
      rw [toList_text_list] at heq
      exact congrArg TypeRef.list (ih h h' (List.cons.inj (List.append_cancel_right heq)).2)

theorem readable_typeText :
    Readable (fun type : TypeRef => Name.isValid type.baseName) (fun type => type.text.toList)
      (Starts fun c => isTypePart c = false) := by
  intro a b ha hb r s hr hs h
  obtain ⟨htext, hrest⟩ := readable_chars isTypePart (isTypePart_of_mem_text ha)
    (isTypePart_of_mem_text hb) hr hs h
  exact ⟨text_typeRef_injective ha hb htext, hrest⟩

/-! ## Default values and deprecations -/

theorem deprecationText_none : deprecationText none = "" := rfl

theorem deprecationText_bare : deprecationText (some ⟨none⟩) = " @deprecated" := rfl

theorem deprecationText_reason (reason : String) : deprecationText (some ⟨some reason⟩) =
    " @deprecated" ++ "(reason: " ++ Text.quote reason ++ ")" := rfl

theorem readable_deprecation :
    Readable (fun _ : Option Deprecation => True)
      (fun deprecation => (deprecationText deprecation).toList)
      (Starts fun c => c ≠ ' ' ∧ c ≠ '(') := by
  have hbare : ∀ {r s : List Char}, Starts (fun c => c ≠ ' ' ∧ c ≠ '(') r →
      r ≠ " @deprecated".toList ++ s ∧ r ≠ "(reason: ".toList ++ s := by
    rintro _ s ⟨c, r, rfl, hblank, hparen⟩
    constructor
    · intro heq
      exact hblank (by simpa using congrArg List.head? heq)
    · intro heq
      exact hparen (by simpa using congrArg List.head? heq)
  rintro (_ | ⟨_ | reason⟩) (_ | ⟨_ | reason'⟩) - - r s hr hs h
  all_goals
    simp only [deprecationText_none, deprecationText_bare, deprecationText_reason,
      String.toList_append, String.toList_empty, List.nil_append, List.append_assoc] at h
  · exact ⟨rfl, h⟩
  · exact absurd h (hbare hr).1
  · exact absurd h (hbare hr).1
  · exact absurd h.symm (hbare hs).1
  · exact ⟨rfl, List.append_cancel_left h⟩
  · exact absurd (List.append_cancel_left h) (hbare hr).2
  · exact absurd h.symm (hbare hs).1
  · exact absurd (List.append_cancel_left h).symm (hbare hs).2
  · obtain ⟨rfl, hrest⟩ := readable_quote trivial trivial trivial trivial
      (List.append_cancel_left (List.append_cancel_left h))
    exact ⟨rfl, List.append_cancel_left hrest⟩

/-- What may stand behind a default value: the end of the argument, or a deprecation. -/
def AfterDefault (text : List Char) : Prop :=
  Starts (· ∈ [',', ')', '\n']) text ∨ ∃ rest, text = ' ' :: '@' :: rest

theorem readable_assignment :
    Readable (fun default : Option String => ∀ literal ∈ default, Delimited literal.toList)
      (fun default => (assignmentText default).toList) AfterDefault := by
  have hno : ∀ {r s : List Char}, AfterDefault r → r ≠ ' ' :: '=' :: s := by
    rintro r s (hr | ⟨rest, rfl⟩) heq
    · rw [heq] at hr
      revert hr
      simp
    · simp at heq
  have hstop : ∀ {r : List Char}, AfterDefault r →
      Starts (fun c => Reader.step (.outside 0) c = none) r := by
    rintro r (hr | ⟨rest, rfl⟩)
    · refine hr.imp fun c hc => ?_
      fin_cases hc <;> rfl
    · exact ⟨' ', _, rfl, rfl⟩
  rintro (_ | literal) (_ | literal') ha hb r s hr hs h
  · exact ⟨rfl, h⟩
  · simp only [assignmentText, String.toList_append, List.append_assoc] at h
    exact absurd h (hno hr)
  · simp only [assignmentText, String.toList_append, List.append_assoc] at h
    exact absurd h.symm (hno hs)
  · simp only [assignmentText, String.toList_append, List.append_assoc] at h
    obtain ⟨htext, hrest⟩ := readable_scan Reader.step (.outside 0) (.outside 0)
      (ha literal rfl 0) (hb literal' rfl 0) (hstop hr) (hstop hs) (List.append_cancel_left h)
    exact ⟨by rw [String.toList_inj.1 htext], hrest⟩

end GraphSchema.Sdl
