import GraphSchema.Proofs.Sdl.Tokens

/-!
# Reading lines

Lines as characters, at some indentation. Indentation is blanks only and nothing that is written
behind it starts with a blank, so a reader knows how deep a line stands, where a description ends
and where a block does.
-/

namespace GraphSchema.Sdl

open Text

/-! ## Lines as characters -/

def Line.chars (step pad : List Char) : Line → List Char
  | .blank => ['\n']
  | .text level s => pad ++ (List.replicate level step).flatten ++ s.toList ++ ['\n']

/-- Lines behind an indentation, with `step` for each level of their own. -/
def layout (step pad : List Char) (lines : List Line) : List Char :=
  lines.flatMap (Line.chars step pad)

section

variable (step pad : List Char)

@[simp] theorem layout_append (lines rest : List Line) :
    layout step pad (lines ++ rest) = layout step pad lines ++ layout step pad rest :=
  List.flatMap_append

@[simp] theorem layout_text (s : String) (rest : List Line) :
    layout step pad (.text 0 s :: rest) = pad ++ s.toList ++ '\n' :: layout step pad rest := by
  simp [layout, Line.chars]

@[simp] theorem layout_blank (rest : List Line) :
    layout step pad (.blank :: rest) = '\n' :: layout step pad rest :=
  rfl

@[simp] theorem layout_nil : layout step pad [] = [] :=
  rfl

theorem layout_shift (levels : Nat) (lines : List Line) :
    layout step pad (lines.map (·.shift levels)) =
      layout step (pad ++ (List.replicate levels step).flatten) lines := by
  rw [layout, layout, List.flatMap_map]
  refine List.flatMap_congr fun line _ => ?_
  cases line with
  | blank => rfl
  | text level s => simp [Line.shift, Line.chars, Nat.add_comm level, ← List.replicate_append_replicate]

theorem layout_block (header close : String) (body : List Line) :
    layout step pad (block header close body) =
      pad ++ header.toList ++ '\n' :: (layout step (pad ++ step) body ++
        (pad ++ close.toList ++ ['\n'])) := by
  rw [block, List.cons_append, layout_text, layout_append, layout_shift, layout_text, layout_nil,
    List.replicate_one, List.flatten_singleton]

theorem layout_flatMap {α : Type} (lines : α → List Line) (items : List α) :
    layout step pad (items.flatMap lines) =
      items.flatMap fun item => layout step pad (lines item) :=
  List.flatMap_assoc

end

theorem toList_renderLines (indent : Indent) (lines : List Line) :
    (renderLines indent lines).toList = layout indent.text.toList [] lines := by
  have hline : ∀ line : Line,
      (line.render indent).toList = line.chars indent.text.toList [] := by
    rintro (_ | ⟨level, s⟩)
    · simp [Line.render, Line.chars]
    · simp [Line.render, Line.chars, List.flatMap]
  simp [renderLines, layout, List.flatMap_map, hline]

/-! ## Indentation -/

/-- Blanks and tabs. -/
def Blank (pad : List Char) : Prop := ∀ c ∈ pad, c = ' ' ∨ c = '\t'

theorem Blank.append {pad step : List Char} (h : Blank pad) (h' : Blank step) :
    Blank (pad ++ step) :=
  List.forall_mem_append.2 ⟨h, h'⟩

theorem Blank.not_mem {pad : List Char} (h : Blank pad) : '\n' ∉ pad := by
  intro hmem
  rcases h _ hmem with h | h <;> cases h

theorem blank_indent (indent : Indent) : Blank indent.text.toList ∧ indent.text.toList ≠ [] := by
  unfold Blank Indent.text
  split <;> simp

/-- Behind the indentation the text goes on as wanted. -/
def Indented (pad : List Char) (p : Char → Prop) (text : List Char) : Prop :=
  ∃ rest, text = pad ++ rest ∧ Starts p rest

/-! ## Descriptions -/

/-- No line of a description holds a line feed. -/
def Description.Valid (description : Description) : Prop :=
  ∀ content ∈ description, ∀ line ∈ content, '\n' ∉ line

theorem valid_describe (description : Option String) : (describe description).Valid := by
  intro content hcontent line hline
  obtain ⟨text, -, rfl⟩ := Option.map_eq_some_iff.1 hcontent
  exact not_mem_of_mem_lines hline

/-- A line of a description, without its line feed. -/
def contentChars (pad line : List Char) : List Char :=
  if line = [] then [] else pad ++ escapeQuotes line

/-- The line above and below a description. -/
def fence : List Char := ['"', '"', '"']

theorem layout_above (step pad : List Char) (content : List (List Char)) (lines : List Line) :
    layout step pad (Description.above lines (some content)) =
      pad ++ (fence ++ '\n' :: (content.flatMap (contentChars pad · ++ ['\n']) ++
        (pad ++ (fence ++ '\n' :: layout step pad lines)))) := by
  have hline : ∀ line, layout step pad [Line.ofChars (escapeQuotes line)] =
      contentChars pad line ++ ['\n'] := by
    intro line
    by_cases hempty : line = []
    · simp [hempty, Line.ofChars, contentChars, escapeQuotes]
    · simp [hempty, Line.ofChars, contentChars, escapeQuotes_eq_nil_iff]
  have hcontent : layout step pad (content.map fun line => Line.ofChars (escapeQuotes line)) =
      content.flatMap (contentChars pad · ++ ['\n']) := by
    rw [← List.flatMap_singleton' (content.map _), List.flatMap_map, layout_flatMap]
    simp only [hline]
  simp [Description.above, hcontent, fence]

theorem contentChars_injective (pad : List Char) : Function.Injective (contentChars pad) := by
  intro line other h
  unfold contentChars at h
  split_ifs at h with hline hother hother
  · rw [hline, hother]
  · have hnil := (List.append_eq_nil_iff.1 h.symm).2
    exact absurd (escapeQuotes_eq_nil_iff.1 hnil) hother
  · have hnil := (List.append_eq_nil_iff.1 h).2
    exact absurd (escapeQuotes_eq_nil_iff.1 hnil) hline
  · exact escapeQuotes_injective (List.append_cancel_left h)

theorem not_mem_contentChars {pad line : List Char} (hpad : Blank pad) (hline : '\n' ∉ line) :
    '\n' ∉ contentChars pad line := by
  unfold contentChars
  split
  · simp
  · rw [List.mem_append, not_or]
    refine ⟨hpad.not_mem, fun hmem => ?_⟩
    rcases mem_escapeQuotes hmem with hmem | hmem
    · exact hline hmem
    · cases hmem

/-- The line that ends a description is no line of its content. -/
theorem contentChars_ne_fence {pad : List Char} (hpad : Blank pad) (line rest more : List Char) :
    contentChars pad line ++ '\n' :: more ≠ pad ++ (fence ++ rest) := by
  intro h
  by_cases hempty : line = []
  · rw [contentChars, if_pos hempty, List.nil_append] at h
    cases pad with
    | nil => cases h
    | cons c pad =>
      rw [List.cons_append, List.cons.injEq] at h
      exact hpad.not_mem (h.1 ▸ List.mem_cons_self)
  · rw [contentChars, if_neg hempty, List.append_assoc, List.append_cancel_left_eq] at h
    exact escapeQuotes_append_ne_quotes (by decide) line more rest h

theorem readable_content {pad : List Char} (hpad : Blank pad) :
    Readable (fun content : List (List Char) => ∀ line ∈ content, '\n' ∉ line)
      (List.flatMap (contentChars pad · ++ ['\n']))
      (fun r => ∃ rest, r = pad ++ (fence ++ rest)) := by
  have hline : Readable (fun line : List Char => '\n' ∉ line) (contentChars pad · ++ ['\n'])
      fun _ => True := by
    intro a b ha hb r s _ _ h
    have hchars : ∀ line, '\n' ∉ line → ∀ c ∈ contentChars pad line, (c != '\n') = true := by
      intro line hline c hc
      rw [bne_iff_ne]
      exact ne_of_mem_of_not_mem hc (not_mem_contentChars hpad hline)
    rw [List.append_assoc, List.append_assoc] at h
    obtain ⟨heq, hrest⟩ := readable_chars (· != '\n') (hchars a ha) (hchars b hb)
      (by simp) (by simp) h
    exact ⟨contentChars_injective pad heq, (List.cons.inj hrest).2⟩
  refine hline.flatMap (fun _ _ _ => trivial) (fun _ _ => trivial) ?_
  rintro line _ more - ⟨rest, rfl⟩ h
  rw [List.append_assoc] at h
  exact contentChars_ne_fence hpad line rest more h

/-- What stands below a description starts with no quote, so it tells whether there is one. -/
theorem read_above {step pad : List Char} (hpad : Blank pad) {description other : Description}
    (hvalid : description.Valid) (hvalid' : other.Valid) {lines lines' : List Line}
    {r s : List Char} (hlines : Indented pad (· ≠ '"') (layout step pad lines))
    (hlines' : Indented pad (· ≠ '"') (layout step pad lines'))
    (h : layout step pad (description.above lines) ++ r =
      layout step pad (other.above lines') ++ s) :
    description = other ∧ layout step pad lines ++ r = layout step pad lines' ++ s := by
  have hfence : ∀ {lines r} {rest : List Char}, Indented pad (· ≠ '"') (layout step pad lines) →
      layout step pad lines ++ r ≠ pad ++ (fence ++ rest) := by
    rintro lines r rest ⟨text, htext, c, tail, rfl, hc⟩ heq
    rw [htext, List.append_assoc, List.append_cancel_left_eq] at heq
    exact hc (List.cons.inj heq).1
  cases description with
  | none =>
    cases other with
    | none => exact ⟨rfl, h⟩
    | some content =>
      rw [layout_above, List.append_assoc, List.append_assoc] at h
      exact absurd h (hfence hlines)
  | some content =>
    cases other with
    | none =>
      rw [layout_above, List.append_assoc, List.append_assoc] at h
      exact absurd h.symm (hfence hlines')
    | some content' =>
      simp only [layout_above, List.append_assoc, List.cons_append, List.append_cancel_left_eq,
        List.cons.injEq, true_and] at h
      obtain ⟨rfl, hrest⟩ := readable_content hpad (hvalid content rfl) (hvalid' content' rfl)
        ⟨_, rfl⟩ ⟨_, rfl⟩ h
      simp only [List.append_cancel_left_eq, List.cons.injEq, true_and] at hrest
      exact ⟨rfl, hrest⟩

/-! ## Blocks -/

/-- Values that are written on lines of their own and can be read back at every indentation. -/
structure ReadableLines {α : Type} (step : List Char) (Valid : α → Prop) (lines : α → List Line) :
    Prop where
  read : ∀ pad, Blank pad →
    Readable Valid (fun a => layout step pad (lines a)) fun _ => True
  indented : ∀ pad a, Valid a → ∃ rest, layout step pad (lines a) = pad ++ rest

namespace ReadableLines

variable {α : Type} {step : List Char} {Valid : α → Prop}

/-- Lines that start with a name can be read back with a description above them. -/
theorem above {description : α → Description} {plain : α → List Line}
    (hvalid : ∀ a, Valid a → (description a).Valid)
    (hstart : ∀ pad a, Valid a →
      Indented pad (fun c => Name.isStart c = true) (layout step pad (plain a)))
    (hread : ∀ pad, Blank pad → ∀ a b, Valid a → Valid b → description a = description b →
      ∀ r s, layout step pad (plain a) ++ r = layout step pad (plain b) ++ s → a = b ∧ r = s) :
    ReadableLines step Valid fun a => (description a).above (plain a) := by
  have hquote : ∀ pad a, Valid a → Indented pad (· ≠ '"') (layout step pad (plain a)) := by
    intro pad a ha
    obtain ⟨rest, heq, hrest⟩ := hstart pad a ha
    refine ⟨rest, heq, hrest.imp ?_⟩
    rintro c hc rfl
    cases hc
  refine ⟨?_, ?_⟩
  · intro pad hpad a b ha hb r s _ _ h
    obtain ⟨hdescription, hrest⟩ := read_above hpad (hvalid a ha) (hvalid b hb)
      (hquote pad a ha) (hquote pad b hb) h
    exact hread pad hpad a b ha hb hdescription r s hrest
  · intro pad a ha
    obtain ⟨rest, heq, -⟩ := hstart pad a ha
    cases hdescription : description a with
    | none => exact ⟨rest, heq⟩
    | some content => exact ⟨_, layout_above step pad content (plain a)⟩

/-- The lines of a block end where a line is not indented so far. -/
theorem block {lines : α → List Line} (h : ReadableLines step Valid lines) (hstep : Blank step)
    (hne : step ≠ []) {pad : List Char} (hpad : Blank pad) :
    Readable (fun items : List α => ∀ a ∈ items, Valid a)
      (fun items => layout step (pad ++ step) (items.flatMap lines))
      (Indented pad fun c => c ≠ ' ' ∧ c ≠ '\t') := by
  simp only [layout_flatMap]
  refine (h.read (pad ++ step) (hpad.append hstep)).flatMap (fun _ _ _ => trivial)
    (fun _ _ => trivial) ?_
  rintro a _ s ha ⟨_, rfl, c, rest, rfl, hc⟩ heq
  obtain ⟨more, hmore⟩ := h.indented (pad ++ step) a ha
  rw [hmore, List.append_assoc, List.append_assoc, List.append_cancel_left_eq] at heq
  cases step with
  | nil => exact hne rfl
  | cons d step =>
    rw [List.cons_append, List.cons.injEq] at heq
    rcases hstep d List.mem_cons_self with hd | hd
    · exact hc.1 (heq.1 ▸ hd)
    · exact hc.2 (heq.1 ▸ hd)

end ReadableLines

/-- What stands behind a header: a block in braces, if there is something in it. -/
def bracesChars (step pad : List Char) (isEmpty : Bool) (body : List Line) : List Char :=
  if isEmpty then ['\n']
  else ' ' :: '\x7b' :: '\n' :: (layout step (pad ++ step) body ++ (pad ++ ['\x7d', '\n']))

theorem layout_bracedLines (step pad : List Char) (header : String) (isEmpty : Bool)
    (body : List Line) : layout step pad (bracedLines header isEmpty body) =
      pad ++ (header.toList ++ bracesChars step pad isEmpty body) := by
  unfold bracedLines bracesChars
  split
  · simp
  · simp [layout_block]

theorem readable_braces {α : Type} {step pad : List Char} {Valid : α → Prop}
    {lines : α → List Line} (h : ReadableLines step Valid lines) (hstep : Blank step)
    (hne : step ≠ []) (hpad : Blank pad) :
    Readable (fun items : List α => ∀ a ∈ items, Valid a)
      (fun items => bracesChars step pad items.isEmpty (items.flatMap lines)) fun _ => True := by
  rintro (_ | ⟨a, items⟩) (_ | ⟨b, others⟩) ha hb r s - - heq
  · exact ⟨rfl, List.append_cancel_left heq⟩
  · simp [bracesChars] at heq
  · simp [bracesChars] at heq
  · simp only [bracesChars, List.isEmpty_cons, Bool.false_eq_true, if_false, List.cons_append,
      List.cons.injEq, true_and, List.append_assoc] at heq
    obtain ⟨hitems, hrest⟩ := h.block hstep hne hpad ha hb ⟨_, rfl, by simp⟩ ⟨_, rfl, by simp⟩ heq
    exact ⟨hitems, by simpa using hrest⟩

end GraphSchema.Sdl
