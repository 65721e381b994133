import GraphSchema.Proofs.Sdl.Fields

/-!
# Reading types

The keyword of a type tells its kind, and what follows its name can be read back for each kind.
-/

namespace GraphSchema.Sdl

open Text

/-! ## Enum values -/

structure PrintedValue.Valid (value : PrintedValue) : Prop where
  aliasName : Name.isValid value.aliasName
  description : value.description.Valid

theorem readable_values (step : List Char) :
    ReadableLines step PrintedValue.Valid PrintedValue.lines := by
  refine ReadableLines.above (fun _ ha => ha.description) ?_ ?_
  · intro pad a ha
    rw [layout_text, String.toList_append, List.append_assoc, List.append_assoc]
    exact indented_name ha.aliasName pad _
  · intro pad _ a b ha hb hdescription r s h
    simp only [layout_text, layout_nil, String.toList_append, List.append_assoc,
      List.append_cancel_left_eq, List.cons_append, List.nil_append] at h
    have hstart : ∀ deprecation r, Starts (fun c => Name.isPart c = false)
        ((deprecationText deprecation).toList ++ '\n' :: r) := fun deprecation r =>
      (starts_defaultText none deprecation (afterInput_feed r)).imp fun c hc => by
        simp only [isTypePart, Bool.or_eq_false_iff] at hc
        exact hc.1
    obtain ⟨hname, h⟩ := readable_name ha.aliasName hb.aliasName (hstart _ _) (hstart _ _) h
    obtain ⟨hdeprecation, h⟩ := readable_deprecation trivial trivial (by simp) (by simp) h
    exact ⟨PrintedValue.ext hname hdescription hdeprecation, (List.cons.inj h).2⟩

/-! ## Lists of names -/

/-- What may stand behind the interfaces of a type. -/
def AfterHeader (text : List Char) : Prop :=
  (∃ rest, text = '\n' :: rest) ∨ ∃ rest, text = ' ' :: '\x7b' :: rest

theorem afterHeader_braces (step pad : List Char) (isEmpty : Bool) (body : List Line)
    (r : List Char) : AfterHeader (bracesChars step pad isEmpty body ++ r) := by
  unfold bracesChars
  split
  · exact .inl ⟨r, rfl⟩
  · exact .inr ⟨_, rfl⟩

theorem AfterHeader.starts {text : List Char} (h : AfterHeader text) :
    Starts (fun c => Name.isPart c = false) text := by
  obtain ⟨rest, rfl⟩ | ⟨rest, rfl⟩ := h
  · exact ⟨_, rest, rfl, rfl⟩
  · exact ⟨_, _, rfl, rfl⟩

theorem readable_implements :
    Readable (fun interfaces : List String => ∀ name ∈ interfaces, Name.isValid name)
      (fun interfaces => (implementsText interfaces).toList) AfterHeader := by
  have hnames : Readable
      (fun names : List String => names ≠ [] ∧ ∀ name ∈ names, Name.isValid name)
      (fun names => [' ', '&', ' '].intercalate (names.map String.toList)) AfterHeader := by
    refine readable_name.intercalate (fun _ => ⟨_, _, rfl, rfl⟩) (fun _ => AfterHeader.starts) ?_
    rintro r s (⟨rest, rfl⟩ | ⟨rest, rfl⟩) h <;> simp at h
  have hno : ∀ {r s : List Char}, AfterHeader r → r ≠ ' ' :: 'i' :: s := by
    rintro r s (⟨rest, rfl⟩ | ⟨rest, rfl⟩) h <;> simp at h
  rintro (_ | ⟨a, interfaces⟩) (_ | ⟨b, others⟩) ha hb r s hr hs h <;>
    simp only [implementsText, List.isEmpty_nil, List.isEmpty_cons, if_true, Bool.false_eq_true,
      if_false, String.toList_append, String.toList_empty, List.nil_append,
      String.toList_intercalate, List.append_assoc] at h
  · exact ⟨rfl, h⟩
  · exact absurd h (hno hr)
  · exact absurd h.symm (hno hs)
  · exact hnames ⟨by simp, ha⟩ ⟨by simp, hb⟩ hr hs (List.append_cancel_left h)

/-- The members of a union behind its name. -/
def membersChars (members : List String) : List Char :=
  if members.isEmpty then []
  else ' ' :: '=' :: ' ' :: [' ', '|', ' '].intercalate (members.map String.toList)

theorem readable_members :
    Readable (fun members : List String => ∀ name ∈ members, Name.isValid name) membersChars
      (Starts (· = '\n')) := by
  have hnames : Readable
      (fun names : List String => names ≠ [] ∧ ∀ name ∈ names, Name.isValid name)
      (fun names => [' ', '|', ' '].intercalate (names.map String.toList)) (Starts (· = '\n')) := by
    refine readable_name.intercalate (fun _ => ⟨_, _, rfl, rfl⟩) ?_ ?_
    · exact fun r hr => hr.imp fun c hc => hc ▸ rfl
    · rintro r s ⟨c, rest, rfl, rfl⟩ h
      simp at h
  rintro (_ | ⟨a, members⟩) (_ | ⟨b, others⟩) ha hb r s hr hs h
  · exact ⟨rfl, h⟩
  · obtain ⟨c, rest, rfl, rfl⟩ := hr
    simp [membersChars] at h
  · obtain ⟨c, rest, rfl, rfl⟩ := hs
    simp [membersChars] at h
  · simp only [membersChars, List.isEmpty_cons, Bool.false_eq_true, if_false, List.cons_append,
      List.cons.injEq, true_and] at h
    exact hnames ⟨by simp, ha⟩ ⟨by simp, hb⟩ hr hs h

/-! ## Types -/

namespace PrintedBody

def Valid : PrintedBody → Prop
  | object interfaces fields =>
    (∀ name ∈ interfaces, Name.isValid name) ∧ ∀ field ∈ fields, field.Valid
  | interface interfaces fields =>
    (∀ name ∈ interfaces, Name.isValid name) ∧ ∀ field ∈ fields, field.Valid
  | inputObject fields => ∀ field ∈ fields, field.Valid
  | union members => ∀ name ∈ members, Name.isValid name
  | enum values => ∀ value ∈ values, value.Valid
  | scalar => True

/-- The word in front of the name of a type. -/
def keyword : PrintedBody → String
  | object .. => "type"
  | interface .. => "interface"
  | inputObject _ => "input"
  | union _ => "union"
  | enum _ => "enum"
  | scalar => "scalar"

/-- What stands behind the name of a type. -/
def tail (step pad : List Char) : PrintedBody → List Char
  | object interfaces fields => (implementsText interfaces).toList ++
    bracesChars step pad fields.isEmpty (fields.flatMap PrintedField.lines)
  | interface interfaces fields => (implementsText interfaces).toList ++
    bracesChars step pad fields.isEmpty (fields.flatMap PrintedField.lines)
  | inputObject fields => bracesChars step pad fields.isEmpty (fields.flatMap PrintedInput.lines)
  | union members => membersChars members ++ ['\n']
  | enum values => bracesChars step pad values.isEmpty (values.flatMap PrintedValue.lines)
  | scalar => ['\n']

theorem isValid_keyword (body : PrintedBody) : Name.isValid body.keyword := by
  cases body <;> simp only [keyword] <;> decide

theorem layout_lines (step pad : List Char) (name : String) (body : PrintedBody) :
    layout step pad (body.lines name) =
      pad ++ (body.keyword.toList ++ ' ' :: (name.toList ++ body.tail step pad)) := by
  cases body with
  | object | interface | inputObject | enum => simp [lines, layout_bracedLines, keyword, tail]
  | union members =>
    cases members <;> simp [lines, unionText, keyword, tail, membersChars]
  | scalar => simp [lines, keyword, tail]

theorem starts_tail (step pad : List Char) (body : PrintedBody) (r : List Char) :
    Starts (fun c => Name.isPart c = false) (body.tail step pad ++ r) := by
  have hinterfaces : ∀ interfaces isEmpty lines, Starts (fun c => Name.isPart c = false)
      ((implementsText interfaces).toList ++ bracesChars step pad isEmpty lines ++ r) := by
    intro interfaces isEmpty lines
    rw [List.append_assoc]
    cases interfaces with
    | nil => exact (afterHeader_braces step pad isEmpty lines r).starts
    | cons => exact ⟨' ', _, by simp [implementsText]; rfl, rfl⟩
  cases body with
  | object => exact hinterfaces ..
  | interface => exact hinterfaces ..
  | inputObject => exact (afterHeader_braces ..).starts
  | enum => exact (afterHeader_braces ..).starts
  | union members =>
    cases members with
    | nil => exact ⟨'\n', r, rfl, rfl⟩
    | cons => exact ⟨' ', _, rfl, rfl⟩
  | scalar => exact ⟨'\n', r, rfl, rfl⟩

section

variable {step pad : List Char} (hstep : Blank step) (hne : step ≠ []) (hpad : Blank pad)
include hstep hne hpad

/-- Objects, and interfaces likewise, go on with what they implement. -/
theorem read_objectTail {interfaces interfaces' : List String}
    {fields fields' : List PrintedField} (ha : (object interfaces fields).Valid)
    (hb : (object interfaces' fields').Valid) {r s : List Char}
    (h : (object interfaces fields).tail step pad ++ r =
      (object interfaces' fields').tail step pad ++ s) :
    interfaces = interfaces' ∧ fields = fields' ∧ r = s := by
  simp only [tail, List.append_assoc] at h
  obtain ⟨hinterfaces, hbraces⟩ := readable_implements ha.1 hb.1 (afterHeader_braces ..)
    (afterHeader_braces ..) h
  exact ⟨hinterfaces, readable_braces (readable_fields hstep hne) hstep hne hpad ha.2 hb.2
    trivial trivial hbraces⟩

/-- The keyword tells the kind of a type, and so how to read what follows the name. -/
theorem read_tail {a b : PrintedBody} (ha : a.Valid) (hb : b.Valid)
    (hkeyword : a.keyword = b.keyword) {r s : List Char}
    (h : a.tail step pad ++ r = b.tail step pad ++ s) : a = b ∧ r = s := by
  have hinputs := readable_braces (readable_inputs step) hstep hne hpad
  have hvalues := readable_braces (readable_values step) hstep hne hpad
  cases a with
  | object interfaces fields =>
    cases b with
    | object interfaces' fields' =>
      obtain ⟨rfl, rfl, hrest⟩ := read_objectTail hstep hne hpad ha hb h
      exact ⟨rfl, hrest⟩
    | _ => simp [keyword] at hkeyword
  | interface interfaces fields =>
    cases b with
    | interface interfaces' fields' =>
      obtain ⟨rfl, rfl, hrest⟩ := read_objectTail hstep hne hpad ha hb h
      exact ⟨rfl, hrest⟩
    | _ => simp [keyword] at hkeyword
  | inputObject fields =>
    cases b with
    | inputObject fields' =>
      obtain ⟨rfl, hrest⟩ := hinputs ha hb trivial trivial h
      exact ⟨rfl, hrest⟩
    | _ => simp [keyword] at hkeyword
  | union members =>
    cases b with
    | union members' =>
      simp only [tail, List.append_assoc] at h
      obtain ⟨rfl, hrest⟩ := readable_members ha hb (by simp) (by simp) h
      exact ⟨rfl, List.append_cancel_left hrest⟩
    | _ => simp [keyword] at hkeyword
  | enum values =>
    cases b with
    | enum values' =>
      obtain ⟨rfl, hrest⟩ := hvalues ha hb trivial trivial h
      exact ⟨rfl, hrest⟩
    | _ => simp [keyword] at hkeyword
  | scalar =>
    cases b with
    | scalar => exact ⟨rfl, List.append_cancel_left h⟩
    | _ => simp [keyword] at hkeyword

end

end PrintedBody

structure PrintedType.Valid (type : PrintedType) : Prop where
  name : Name.isValid type.name
  description : type.description.Valid
  body : type.body.Valid

theorem readable_types {step : List Char} (hstep : Blank step) (hne : step ≠ []) :
    ReadableLines step PrintedType.Valid PrintedType.lines := by
  refine ReadableLines.above (fun _ ha => ha.description) ?_ ?_
  · intro pad a _
    rw [PrintedBody.layout_lines]
    exact indented_name a.body.isValid_keyword pad _
  · intro pad hpad a b ha hb hdescription r s h
    simp only [PrintedBody.layout_lines, List.append_assoc, List.append_cancel_left_eq,
      List.cons_append] at h
    obtain ⟨hkeyword, h⟩ := readable_name a.body.isValid_keyword b.body.isValid_keyword
      (by simp; rfl) (by simp; rfl) h
    obtain ⟨hname, h⟩ := readable_name ha.name hb.name (PrintedBody.starts_tail step pad _ r)
      (PrintedBody.starts_tail step pad _ s) (List.cons.inj h).2
    obtain ⟨hbody, h⟩ := PrintedBody.read_tail hstep hne hpad ha.body hb.body hkeyword h
    exact ⟨PrintedType.ext hname hdescription hbody, h⟩

end GraphSchema.Sdl
