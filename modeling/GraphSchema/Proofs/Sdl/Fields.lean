import GraphSchema.Proofs.Sdl.Layout

/-!
# Reading fields

The fields of types and their arguments can be read back, whether the arguments stand on the line of
the field or on lines of their own.
-/

namespace GraphSchema.Sdl

open Text

/-! ## Inputs -/

structure PrintedInput.Valid (input : PrintedInput) : Prop where
  name : Name.isValid input.name
  type : Name.isValid input.type.baseName
  description : input.description.Valid
  default : ∀ literal ∈ input.default, Delimited literal.toList

theorem toList_inputText (input : PrintedInput) :
    input.text.toList = input.name.toList ++ (':' :: ' ' :: (input.type.text.toList ++
      ((assignmentText input.default).toList ++ (deprecationText input.deprecation).toList))) := by
  simp [PrintedInput.text]

/-- What may stand behind an input. -/
def AfterInput : List Char → Prop := Starts (· ∈ [',', ')', '\n'])

theorem AfterInput.imp {text : List Char} (h : AfterInput text) {p : Char → Prop} (hcomma : p ',')
    (hclose : p ')') (hfeed : p '\n') : Starts p text := by
  refine Starts.imp h fun c hc => ?_
  fin_cases hc
  · exact hcomma
  · exact hclose
  · exact hfeed

theorem afterInput_feed (rest : List Char) : AfterInput ('\n' :: rest) := by
  simp [AfterInput]

theorem afterDefault_deprecation (deprecation : Option Deprecation) {r : List Char}
    (h : AfterInput r) : AfterDefault ((deprecationText deprecation).toList ++ r) := by
  rcases deprecation with _ | ⟨_ | reason⟩
  · exact .inl h
  · exact .inr ⟨_, by rw [deprecationText_bare]; simp; rfl⟩
  · exact .inr ⟨_, by rw [deprecationText_reason]; simp; rfl⟩

theorem starts_defaultText (default : Option String) (deprecation : Option Deprecation)
    {r : List Char} (h : AfterInput r) : Starts (fun c => isTypePart c = false)
      ((assignmentText default).toList ++ ((deprecationText deprecation).toList ++ r)) := by
  cases default with
  | some literal => exact ⟨' ', _, by simp [assignmentText]; rfl, rfl⟩
  | none =>
    rcases afterDefault_deprecation deprecation h with hstart | ⟨rest, heq⟩
    · exact AfterInput.imp hstart rfl rfl rfl
    · exact ⟨' ', _, heq, rfl⟩

/-- All of an input but its description stands on one line. -/
theorem read_inputText {a b : PrintedInput} (ha : a.Valid) (hb : b.Valid)
    (hdescription : a.description = b.description) {r s : List Char} (hr : AfterInput r)
    (hs : AfterInput s) (h : a.text.toList ++ r = b.text.toList ++ s) : a = b ∧ r = s := by
  simp only [toList_inputText, List.append_assoc, List.cons_append] at h
  obtain ⟨hname, h⟩ := readable_name ha.name hb.name (by simp; rfl) (by simp; rfl) h
  simp only [List.cons.injEq, true_and] at h
  obtain ⟨htype, h⟩ := readable_typeText ha.type hb.type (starts_defaultText _ _ hr)
    (starts_defaultText _ _ hs) h
  obtain ⟨hdefault, h⟩ := readable_assignment ha.default hb.default
    (afterDefault_deprecation _ hr) (afterDefault_deprecation _ hs) h
  obtain ⟨hdeprecation, h⟩ := readable_deprecation trivial trivial
    (hr.imp (by decide) (by decide) (by decide)) (hs.imp (by decide) (by decide) (by decide)) h
  exact ⟨PrintedInput.ext hname htype hdescription hdefault hdeprecation, h⟩

theorem indented_name {name : String} (h : Name.isValid name) (pad rest : List Char) :
    Indented pad (fun c => Name.isStart c = true) (pad ++ (name.toList ++ rest)) :=
  ⟨name.toList ++ rest, rfl, (starts_name h).append rest⟩

theorem readable_inputs (step : List Char) :
    ReadableLines step PrintedInput.Valid PrintedInput.lines := by
  refine ReadableLines.above (fun _ ha => ha.description) ?_ ?_
  · intro pad a ha
    rw [layout_text, toList_inputText, List.append_assoc, List.append_assoc]
    exact indented_name ha.name pad _
  · intro pad _ a b ha hb hdescription r s h
    simp only [layout_text, layout_nil, List.append_assoc, List.append_cancel_left_eq,
      List.cons_append, List.nil_append] at h
    obtain ⟨hsame, hrest⟩ := read_inputText ha hb hdescription (afterInput_feed r)
      (afterInput_feed s) h
    exact ⟨hsame, (List.cons.inj hrest).2⟩

/-! ## Fields -/

structure PrintedField.Valid (field : PrintedField) : Prop where
  name : Name.isValid field.name
  type : Name.isValid field.type.baseName
  description : field.description.Valid
  arguments : ∀ argument ∈ field.arguments, argument.Valid

/-- The arguments of a field with the brackets around them. -/
def argumentsChars (step pad : List Char) (arguments : List PrintedInput) : List Char :=
  if arguments.isEmpty then []
  else if arguments.any (·.description.isSome) then
    '(' :: '\n' :: (layout step (pad ++ step) (arguments.flatMap PrintedInput.lines) ++
      (pad ++ [')']))
  else '(' :: ([',', ' '].intercalate (arguments.map (·.text.toList)) ++ [')'])

theorem layout_plainLines (step pad : List Char) (field : PrintedField) :
    layout step pad field.plainLines = pad ++ (field.name.toList ++
      (argumentsChars step pad field.arguments ++ (field.ending.toList ++ ['\n']))) := by
  unfold PrintedField.plainLines argumentsChars
  split
  · simp
  · split
    · simp [layout_block]
    · simp [Function.comp_def]

theorem readable_inlineArguments :
    Readable (fun arguments : List PrintedInput => arguments ≠ [] ∧
        ∀ argument ∈ arguments, argument.Valid ∧ argument.description = none)
      (fun arguments => [',', ' '].intercalate (arguments.map (·.text.toList)))
      (Starts (· = ')')) := by
  have hargument : Readable
      (fun argument : PrintedInput => argument.Valid ∧ argument.description = none)
      (fun argument => argument.text.toList) AfterInput := by
    intro a b ha hb r s hr hs h
    exact read_inputText ha.1 hb.1 (ha.2.trans hb.2.symm) hr hs h
  refine hargument.intercalate ?_ ?_ ?_
  · simp [AfterInput]
  · intro r hr
    exact hr.imp fun c hc => by simp [hc]
  · rintro r s ⟨c, rest, rfl, rfl⟩ h
    cases h

theorem starts_inlineArguments {arguments : List PrintedInput} (hne : arguments ≠ [])
    (h : ∀ argument ∈ arguments, argument.Valid) (rest : List Char) :
    Starts (fun c => Name.isStart c = true)
      ([',', ' '].intercalate (arguments.map (·.text.toList)) ++ rest) := by
  cases arguments with
  | nil => exact absurd rfl hne
  | cons argument arguments =>
    rw [Readable.intercalate_cons, toList_inputText]
    exact (((starts_name (h argument List.mem_cons_self).name).append _).append _).append _

/-- Arguments stand in brackets, one behind the other or on lines of their own. The character behind
the bracket tells which. -/
theorem readable_arguments {step pad : List Char} (hstep : Blank step) (hne : step ≠ [])
    (hpad : Blank pad) :
    Readable (fun arguments : List PrintedInput => ∀ argument ∈ arguments, argument.Valid)
      (argumentsChars step pad) (Starts (· = ':')) := by
  have hblock := (readable_inputs step).block hstep hne hpad
  have hinline : ∀ {arguments : List PrintedInput}, ¬ arguments.any (·.description.isSome) →
      (∀ argument ∈ arguments, argument.Valid) →
        ∀ argument ∈ arguments, argument.Valid ∧ argument.description = none := by
    intro arguments hany hvalid argument hmem
    simp only [List.any_eq_true, not_exists, not_and, Bool.not_eq_true, Option.isSome_eq_false_iff,
      Option.isNone_iff_eq_none] at hany
    exact ⟨hvalid argument hmem, hany argument hmem⟩
  have hfeed : ∀ {arguments : List PrintedInput} {rest more : List Char}, arguments ≠ [] →
      (∀ argument ∈ arguments, argument.Valid) →
      [',', ' '].intercalate (arguments.map (·.text.toList)) ++ rest ≠ '\n' :: more := by
    intro arguments rest more hne hvalid heq
    have hstart := starts_inlineArguments hne hvalid rest
    rw [heq, starts_cons] at hstart
    cases hstart
  intro a b ha hb r s hr hs h
  obtain ⟨_, r, rfl, rfl⟩ := hr
  obtain ⟨_, s, rfl, rfl⟩ := hs
  simp only [argumentsChars, List.isEmpty_iff] at h
  split_ifs at h with hea heb hdb hda heb hdb heb hdb
  all_goals simp only [List.cons_append, List.nil_append, List.append_assoc, List.cons.injEq,
    true_and] at h
  -- Without arguments on one side, the colon tells that there are none on the other.
  · rw [hea, heb, h]
    exact ⟨rfl, rfl⟩
  · cases h.1
  · cases h.1
  · cases h.1
  · obtain ⟨rfl, hrest⟩ := hblock ha hb ⟨_, rfl, by simp⟩ ⟨_, rfl, by simp⟩ h
    simpa using hrest
  · exact absurd h.symm (hfeed heb hb)
  · cases h.1
  · exact absurd h (hfeed hea ha)
  · obtain ⟨rfl, hrest⟩ := readable_inlineArguments ⟨hea, hinline hda ha⟩ ⟨heb, hinline hdb hb⟩
      (by simp) (by simp) h
    simpa using hrest

theorem toList_ending (field : PrintedField) :
    field.ending.toList = ':' :: ' ' ::
      (field.type.text.toList ++ (deprecationText field.deprecation).toList) := by
  simp [PrintedField.ending]

theorem readable_fields {step : List Char} (hstep : Blank step) (hne : step ≠ []) :
    ReadableLines step PrintedField.Valid PrintedField.lines := by
  refine ReadableLines.above (fun _ ha => ha.description) ?_ ?_
  · intro pad a ha
    rw [layout_plainLines]
    exact indented_name ha.name pad _
  · intro pad hpad a b ha hb hdescription r s h
    have hstart : ∀ (arguments : List PrintedInput) (rest : List Char),
        Starts (fun c => Name.isPart c = false)
          (argumentsChars step pad arguments ++ (':' :: rest)) := by
      intro arguments rest
      unfold argumentsChars
      split
      · simp; rfl
      · split <;> simp <;> rfl
    simp only [layout_plainLines, toList_ending, List.append_assoc, List.append_cancel_left_eq,
      List.cons_append, List.nil_append] at h
    obtain ⟨hname, h⟩ := readable_name ha.name hb.name (hstart _ _) (hstart _ _) h
    obtain ⟨harguments, h⟩ := readable_arguments hstep hne hpad ha.arguments hb.arguments
      (by simp) (by simp) h
    simp only [List.cons.injEq, true_and] at h
    obtain ⟨htype, h⟩ := readable_typeText ha.type hb.type
      (starts_defaultText none _ (afterInput_feed r))
      (starts_defaultText none _ (afterInput_feed s)) h
    obtain ⟨hdeprecation, h⟩ := readable_deprecation trivial trivial (by simp) (by simp) h
    exact ⟨PrintedField.ext hname htype hdescription harguments hdeprecation, (List.cons.inj h).2⟩

end GraphSchema.Sdl
