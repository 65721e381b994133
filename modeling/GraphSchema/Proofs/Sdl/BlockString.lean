import GraphSchema.Proofs.Sdl.Layout

/-!
# Block strings

What stands between three quotes and three quotes, by the rules that GraphQL has for it: escaped
quotes are quotes, the common indentation of the lines goes, and so do blank lines at both ends. A
printed description reads back as its own lines under the same rules.
-/

namespace GraphSchema.Sdl.BlockString

/-! ## Rules -/

def before (text : List Char) (result : List Char × List Char) : List Char × List Char :=
  (text ++ result.1, result.2)

/-- What stands in front of the closing quotes, and what comes behind them. -/
def read : List Char → Option (List Char × List Char)
  | '\\' :: '"' :: '"' :: '"' :: rest => (read rest).map (before fence)
  | '"' :: '"' :: '"' :: rest => some ([], rest)
  | c :: rest => (read rest).map (before [c])
  | [] => none

/-- Lines end at line feeds, at carriage returns, and at line feeds behind carriage returns. -/
def splitLines : List Char → List (List Char)
  | [] => [[]]
  | '\r' :: '\n' :: rest => [] :: splitLines rest
  | c :: rest =>
    if c = '\n' ∨ c = '\r' then [] :: splitLines rest
    else
      match splitLines rest with
      | [] => [[c]]
      | line :: lines => (c :: line) :: lines

def isIndent (c : Char) : Bool := c == ' ' || c == '\t'

def isBlankLine (line : List Char) : Bool := line.all isIndent

def indentOf (line : List Char) : Nat := (line.takeWhile isIndent).length

/-- The smallest indentation of the lines that are not blank, if there are any. -/
def commonIndent : List (List Char) → Option Nat
  | [] => none
  | line :: rest =>
    if isBlankLine line then commonIndent rest
    else
      match commonIndent rest with
      | none => some (indentOf line)
      | some indent => some (min (indentOf line) indent)

/-- The lines without an indentation, as they are if there is none. -/
def removeIndent (indent : Option Nat) (lines : List (List Char)) : List (List Char) :=
  lines.map (·.drop (indent.getD 0))

/-- The lines without the blank ones at both ends. -/
def trimLines (lines : List (List Char)) : List (List Char) :=
  (lines.dropWhile isBlankLine).rdropWhile isBlankLine

def join (lines : List (List Char)) : List Char := ['\n'].intercalate lines

/-- The value of a block string. Its first line does not count for the indentation. -/
def value (raw : List Char) : List Char :=
  match splitLines raw with
  | [] => []
  | first :: rest => join (trimLines (first :: removeIndent (commonIndent rest) rest))

/-- The same with the first line counted like the others. -/
def dedent (lines : List (List Char)) : List Char :=
  join (trimLines (removeIndent (commonIndent lines) lines))

/-! ## Reading -/

theorem read_fence (rest : List Char) : read (fence ++ rest) = some ([], rest) :=
  rfl

theorem map_before_nil (result : Option (List Char × List Char)) :
    result.map (before []) = result := by
  cases result <;> rfl

theorem map_before (text more : List Char) (result : Option (List Char × List Char)) :
    (result.map (before more)).map (before text) = result.map (before (text ++ more)) := by
  cases result <;> simp [before]

theorem read_cons {c : Char} (hquote : c ≠ '"') (hescape : c ≠ '\\') (rest : List Char) :
    read (c :: rest) = (read rest).map (before [c]) :=
  read.eq_3 c rest (fun _ h _ => hescape h) fun _ h _ => hquote h

theorem read_escapeQuotes {c : Char} (hc : c ≠ '"') (text rest : List Char) :
    read (escapeQuotes text ++ c :: rest) = (read (c :: rest)).map (before text) := by
  induction text using escapeQuotes.induct with
  | case1 text ih =>
    have hread : read (escapeQuotes ('"' :: '"' :: '"' :: text) ++ c :: rest) =
        (read (escapeQuotes text ++ c :: rest)).map (before fence) := rfl
    rw [hread, ih, map_before]
    rfl
  | case2 d text hno ih =>
    have htext := escapeQuotes.eq_2 d text hno
    rw [htext, List.cons_append, read.eq_3, ih, map_before]
    · rfl
    · rintro more rfl heq
      exact escapeQuotes_append_ne_quotes hc text rest more heq
    · rintro more rfl heq
      have hquotes : escapeQuotes ('"' :: text) ++ c :: rest = '"' :: '"' :: '"' :: more := by
        rw [htext, List.cons_append, heq]
      exact escapeQuotes_append_ne_quotes hc ('"' :: text) rest more hquotes
  | case3 => exact (map_before_nil _).symm

theorem read_blank {pad : List Char} (hpad : Blank pad) (rest : List Char) :
    read (pad ++ rest) = (read rest).map (before pad) := by
  induction pad with
  | nil => exact (map_before_nil _).symm
  | cons c pad ih =>
    have hc := hpad c List.mem_cons_self
    have hquote : c ≠ '"' := by rcases hc with rfl | rfl <;> decide
    have hescape : c ≠ '\\' := by rcases hc with rfl | rfl <;> decide
    rw [List.cons_append, read_cons hquote hescape,
      ih fun other hother => hpad other (List.mem_cons_of_mem _ hother), map_before]
    rfl

/-- A line of a description at its indentation. -/
def indented (pad line : List Char) : List Char := if line = [] then [] else pad ++ line

theorem read_contentChars {pad : List Char} (hpad : Blank pad) (line rest : List Char) :
    read (contentChars pad line ++ '\n' :: rest) =
      (read rest).map (before (indented pad line ++ ['\n'])) := by
  have hfeed : read ('\n' :: rest) = (read rest).map (before ['\n']) :=
    read_cons (by decide) (by decide) rest
  unfold contentChars indented
  split
  · exact hfeed
  · rw [List.append_assoc, read_blank hpad, read_escapeQuotes (by decide), hfeed, map_before,
      map_before, List.append_assoc]

theorem read_content {pad : List Char} (hpad : Blank pad) (content : List (List Char))
    (rest : List Char) :
    read (content.flatMap (contentChars pad · ++ ['\n']) ++ rest) =
      (read rest).map (before (content.flatMap (indented pad · ++ ['\n']))) := by
  induction content with
  | nil => exact (map_before_nil _).symm
  | cons line content ih =>
    rw [List.flatMap_cons, List.append_assoc, List.append_assoc, List.singleton_append,
      read_contentChars hpad, ih, map_before, List.flatMap_cons]

/-! ## Lines -/

theorem splitLines_cons {c : Char} (hfeed : c ≠ '\n') (hreturn : c ≠ '\r') {text line : List Char}
    {lines : List (List Char)} (h : splitLines text = line :: lines) :
    splitLines (c :: text) = (c :: line) :: lines := by
  rw [splitLines.eq_3 c text fun _ hc _ => hreturn hc, if_neg (by simp [hfeed, hreturn]), h]

/-- The line holds no end of a line. -/
def Whole (line : List Char) : Prop := ∀ c ∈ line, c ≠ '\n' ∧ c ≠ '\r'

theorem Whole.of_blank {pad : List Char} (hpad : Blank pad) : Whole pad := by
  intro c hc
  rcases hpad c hc with rfl | rfl <;> decide

theorem whole_indented {pad line : List Char} (hpad : Blank pad) (hline : Whole line) :
    Whole (indented pad line) := by
  unfold indented
  split
  · nofun
  · exact List.forall_mem_append.2 ⟨Whole.of_blank hpad, hline⟩

theorem splitLines_append {line text : List Char} {lines : List (List Char)} (hline : Whole line)
    (htext : splitLines text = [] :: lines) : splitLines (line ++ text) = line :: lines := by
  induction line with
  | nil => exact htext
  | cons c line ih =>
    obtain ⟨⟨hfeed, hreturn⟩, hrest⟩ := List.forall_mem_cons.1 hline
    exact splitLines_cons hfeed hreturn (ih hrest)

theorem splitLines_of_whole {line : List Char} (h : Whole line) : splitLines line = [line] := by
  have hline := splitLines_append h (show splitLines [] = [[]] from rfl)
  rwa [List.append_nil] at hline

theorem splitLines_flatMap {lines : List (List Char)} (h : ∀ line ∈ lines, Whole line)
    (rest : List Char) :
    splitLines (lines.flatMap (· ++ ['\n']) ++ rest) = lines ++ splitLines rest := by
  induction lines with
  | nil => rfl
  | cons line lines ih =>
    rw [List.forall_mem_cons] at h
    rw [List.flatMap_cons, List.append_assoc, List.append_assoc, List.singleton_append,
      splitLines_append h.1 rfl, ih h.2, List.cons_append]

/-! ## Paired returns -/

/-- Every carriage return is directly followed by a line feed. -/
def PairedReturns (text : List Char) : Prop :=
  ∀ i < text.length, text[i]? = some '\r' → text[i + 1]? = some '\n'

instance (text : List Char) : Decidable (PairedReturns text) :=
  inferInstanceAs (Decidable (∀ i < text.length, text[i]? = some '\r' → text[i + 1]? = some '\n'))

theorem PairedReturns.head?_eq {front back : List Char} (h : PairedReturns (front ++ '\r' :: back)) :
    back.head? = some '\n' := by
  have hnext := h front.length (by simp) (by simp)
  rw [List.getElem?_append_right (Nat.le_add_right ..)] at hnext
  simpa [List.head?_eq_getElem?] using hnext

theorem PairedReturns.of_append {front back : List Char} (h : PairedReturns (front ++ back)) :
    PairedReturns back := by
  intro i hi hreturn
  have hnext := h (front.length + i) (by simpa using hi)
  rw [List.getElem?_append_right (by omega), List.getElem?_append_right (by omega)] at hnext
  simpa [Nat.add_assoc] using hnext (by simpa using hreturn)

/-- A return could only stand at the end of such a text, with its line feed behind it. -/
theorem PairedReturns.whole {text rest : List Char} (h : PairedReturns (text ++ rest))
    (hfeed : '\n' ∉ text) (hend : text.getLast? ≠ some '\r' ∨ rest.head? ≠ some '\n') :
    Whole text := by
  intro c hc
  refine ⟨ne_of_mem_of_not_mem hc hfeed, ?_⟩
  rintro rfl
  obtain ⟨front, back, rfl⟩ := List.append_of_mem hc
  rw [List.append_assoc, List.cons_append] at h
  have hnext := h.head?_eq
  cases back with
  | nil => rcases hend with hend | hend <;> simp_all
  | cons d back => simp_all

theorem PairedReturns.line {text rest : List Char} (h : PairedReturns (text ++ '\n' :: rest))
    (hfeed : '\n' ∉ text) :
    Whole (Text.dropReturn text) ∧
      splitLines (text ++ '\n' :: rest) = Text.dropReturn text :: splitLines rest := by
  unfold Text.dropReturn
  split
  · rename_i hlast
    obtain ⟨init, rfl⟩ := List.getLast?_eq_some_iff.1 hlast
    rw [List.append_assoc] at h ⊢
    have hwhole : Whole init := h.whole (by simp_all) (.inr (by simp))
    rw [List.dropLast_concat]
    exact ⟨hwhole, splitLines_append hwhole rfl⟩
  · rename_i hlast
    have hwhole : Whole text := h.whole hfeed (.inl hlast)
    exact ⟨hwhole, splitLines_append hwhole rfl⟩

/-- The lines of such a text are those of the rules, but for an empty one behind the last line
feed. -/
theorem PairedReturns.lines {text : List Char} (h : PairedReturns text) :
    (∀ line ∈ Text.lines text, Whole line) ∧
      (splitLines text = Text.lines text ∨ splitLines text = Text.lines text ++ [[]]) := by
  induction text using Text.lines_induction with
  | nil => exact ⟨nofun, .inr rfl⟩
  | last text hfeed hne =>
    rw [← List.append_nil text] at h
    have hwhole : Whole text := h.whole hfeed (.inr nofun)
    rw [Text.lines_of_not_mem hfeed hne, splitLines_of_whole hwhole]
    exact ⟨List.forall_mem_singleton.2 hwhole, .inl rfl⟩
  | line text rest hfeed ih =>
    obtain ⟨hwhole, hsplit⟩ := h.line hfeed
    rw [List.append_cons] at h
    obtain ⟨hlines, hrest⟩ := ih h.of_append
    rw [Text.lines_append hfeed, hsplit]
    refine ⟨List.forall_mem_cons.2 ⟨hwhole, hlines⟩, ?_⟩
    rcases hrest with hrest | hrest
    · exact .inl (by rw [hrest])
    · exact .inr (by rw [hrest, List.cons_append])

/-! ## Indentation -/

theorem isBlankLine_of_blank {pad : List Char} (hpad : Blank pad) : isBlankLine pad := by
  rw [isBlankLine, List.all_eq_true]
  intro c hc
  rcases hpad c hc with rfl | rfl <;> rfl

theorem isBlankLine_indented {pad : List Char} (hpad : Blank pad) (line : List Char) :
    isBlankLine (indented pad line) = isBlankLine line := by
  have hblank := isBlankLine_of_blank hpad
  unfold indented isBlankLine at *
  split
  · rename_i hempty
    rw [hempty]
  · rw [List.all_append, hblank, Bool.true_and]

theorem indentOf_indented {pad line : List Char} (hpad : Blank pad) (hline : line ≠ []) :
    indentOf (indented pad line) = pad.length + indentOf line := by
  have hblank := isBlankLine_of_blank hpad
  rw [isBlankLine, List.all_eq_true] at hblank
  unfold indentOf indented
  rw [if_neg hline, List.takeWhile_append_of_pos hblank, List.length_append]

theorem removeIndent_none (lines : List (List Char)) : removeIndent none lines = lines := by
  simp [removeIndent]

theorem commonIndent_concat {line : List Char} (h : isBlankLine line) (lines : List (List Char)) :
    commonIndent (lines ++ [line]) = commonIndent lines := by
  induction lines with
  | nil => simp [commonIndent, h]
  | cons other lines ih => rw [List.cons_append, commonIndent, commonIndent, ih]

theorem commonIndent_map_indented {pad : List Char} (hpad : Blank pad)
    (lines : List (List Char)) :
    commonIndent (lines.map (indented pad)) = (commonIndent lines).map (pad.length + ·) := by
  induction lines with
  | nil => rfl
  | cons line lines ih =>
    rw [List.map_cons, commonIndent, commonIndent, isBlankLine_indented hpad, ih]
    by_cases hblank : isBlankLine line
    · rw [if_pos hblank, if_pos hblank]
    · have hne : line ≠ [] := by
        rintro rfl
        exact hblank rfl
      rw [if_neg hblank, if_neg hblank, indentOf_indented hpad hne]
      cases commonIndent lines with
      | none => rfl
      | some indent => simp [Nat.add_min_add_left]

theorem isBlankLine_of_commonIndent_eq_none {lines : List (List Char)}
    (h : commonIndent lines = none) : ∀ line ∈ lines, isBlankLine line := by
  induction lines with
  | nil => nofun
  | cons line lines ih =>
    rw [commonIndent] at h
    by_cases hblank : isBlankLine line
    · rw [if_pos hblank] at h
      exact List.forall_mem_cons.2 ⟨hblank, ih h⟩
    · rw [if_neg hblank] at h
      split at h <;> cases h

/-! ## Blank lines -/

theorem trimLines_cons {line : List Char} (h : isBlankLine line) (lines : List (List Char)) :
    trimLines (line :: lines) = trimLines lines := by
  rw [trimLines, List.dropWhile_cons_of_pos h, trimLines]

theorem trimLines_of_blank {lines : List (List Char)} (h : ∀ line ∈ lines, isBlankLine line) :
    trimLines lines = [] := by
  induction lines with
  | nil => rfl
  | cons line lines ih =>
    rw [List.forall_mem_cons] at h
    rw [trimLines_cons h.1, ih h.2]

theorem trimLines_concat {line : List Char} (h : isBlankLine line) (lines : List (List Char)) :
    trimLines (lines ++ [line]) = trimLines lines := by
  induction lines with
  | nil => exact trimLines_of_blank (List.forall_mem_singleton.2 h)
  | cons other lines ih =>
    by_cases hother : isBlankLine other
    · rw [List.cons_append, trimLines_cons hother, trimLines_cons hother, ih]
    · rw [trimLines, trimLines, List.cons_append, List.dropWhile_cons_of_neg hother,
        List.dropWhile_cons_of_neg hother, ← List.cons_append, List.rdropWhile_concat_pos _ _ _ h]

/-! ## Descriptions -/

theorem dedent_concat_nil (lines : List (List Char)) : dedent (lines ++ [[]]) = dedent lines := by
  have hblank : isBlankLine [] := rfl
  rw [dedent, commonIndent_concat hblank, removeIndent, List.map_append, List.map_singleton,
    List.drop_nil, trimLines_concat hblank]
  rfl

/-- What a description is printed as between its quotes, once they are read. -/
def printed (pad : List Char) (lines : List (List Char)) : List Char :=
  '\n' :: (lines.flatMap (indented pad · ++ ['\n']) ++ pad)

theorem splitLines_printed {pad : List Char} (hpad : Blank pad) {lines : List (List Char)}
    (hlines : ∀ line ∈ lines, Whole line) :
    splitLines (printed pad lines) = [] :: (lines.map (indented pad) ++ [pad]) := by
  have hwhole : ∀ line ∈ lines.map (indented pad), Whole line :=
    List.forall_mem_map.2 fun line hline => whole_indented hpad (hlines line hline)
  have hsplit := splitLines_flatMap hwhole pad
  rw [List.flatMap_map, splitLines_of_whole (.of_blank hpad)] at hsplit
  have hfirst : splitLines (printed pad lines) =
      [] :: splitLines (lines.flatMap (indented pad · ++ ['\n']) ++ pad) := rfl
  rw [hfirst, hsplit]

/-- The indentation is common to all lines but the empty ones, and goes with the rest of what they
have in common. -/
theorem trimLines_removeIndent_indented {pad : List Char} (hpad : Blank pad)
    (lines : List (List Char)) :
    trimLines (removeIndent (commonIndent (lines.map (indented pad))) (lines.map (indented pad))) =
      trimLines (removeIndent (commonIndent lines) lines) := by
  rw [commonIndent_map_indented hpad]
  cases hcommon : commonIndent lines with
  | none =>
    have hblank := isBlankLine_of_commonIndent_eq_none hcommon
    have hblank' : ∀ line ∈ lines.map (indented pad), isBlankLine line :=
      List.forall_mem_map.2 fun line hline => by
        rw [isBlankLine_indented hpad]
        exact hblank line hline
    rw [Option.map_none, removeIndent_none, removeIndent_none, trimLines_of_blank hblank,
      trimLines_of_blank hblank']
  | some indent =>
    have hdrop : ∀ line, (indented pad line).drop (pad.length + indent) = line.drop indent := by
      intro line
      unfold indented
      split
      · rename_i hempty
        rw [hempty, List.drop_nil, List.drop_nil]
      · simp [List.drop_append]
    simp [removeIndent, hdrop, Function.comp_def]

theorem value_printed {pad : List Char} (hpad : Blank pad) {lines : List (List Char)}
    (hlines : ∀ line ∈ lines, Whole line) : value (printed pad lines) = dedent lines := by
  have hblank := isBlankLine_of_blank hpad
  have hdropped : ∀ n, isBlankLine (pad.drop n) := fun n =>
    isBlankLine_of_blank fun c hc => hpad c (List.mem_of_mem_drop hc)
  unfold value dedent
  rw [splitLines_printed hpad hlines]
  simp only
  rw [trimLines_cons rfl, commonIndent_concat hblank, removeIndent, List.map_append,
    List.map_singleton, trimLines_concat (hdropped _), ← removeIndent,
    trimLines_removeIndent_indented hpad]

/-- The text of a description behind its first quotes. -/
def body (pad : List Char) (lines : List (List Char)) : List Char :=
  '\n' :: (lines.flatMap (contentChars pad · ++ ['\n']) ++ (pad ++ (fence ++ ['\n'])))

theorem read_body {pad : List Char} (hpad : Blank pad) (lines : List (List Char))
    (rest : List Char) : read (body pad lines ++ rest) = some (printed pad lines, '\n' :: rest) := by
  have hbody : body pad lines ++ rest =
      '\n' :: (lines.flatMap (contentChars pad · ++ ['\n']) ++ (pad ++ (fence ++ '\n' :: rest))) := by
    simp [body]
  rw [hbody, read_cons (by decide) (by decide), read_content hpad, read_blank hpad, read_fence]
  simp [before, printed]

theorem blank_levels (indent : Indent) (level : Nat) :
    Blank (List.replicate level indent.text.toList).flatten := by
  intro c hc
  obtain ⟨step, hstep, hc⟩ := List.mem_flatten.1 hc
  rw [List.eq_of_mem_replicate hstep] at hc
  exact (blank_indent indent).1 c hc

theorem layout_descriptionLines (step pad : List Char) (description : String) :
    layout step pad (descriptionLines (some description)) =
      pad ++ (fence ++ body pad (Text.lines description.toList)) := by
  rw [← List.append_nil (descriptionLines _), descriptionLines_append]
  exact layout_above step pad (Text.lines description.toList) []

/-- A description is printed as one block string: reading it up to the first quotes that are not
escaped leaves what comes behind its last line. Its value is that of the description's own lines. -/
theorem description_reads_back (description : String)
    (hpaired : PairedReturns description.toList) (indent : Indent) (level : Nat) :
    ∃ body raw,
      (renderLines indent ((descriptionLines (some description)).map (·.shift level))).toList =
        (List.replicate level indent.text.toList).flatten ++ (fence ++ body) ∧
      (∀ rest, read (body ++ rest) = some (raw, '\n' :: rest)) ∧
      value raw = dedent (Text.lines description.toList) ∧
      value raw = dedent (splitLines description.toList) := by
  have hpad := blank_levels indent level
  obtain ⟨hlines, hsplit⟩ := hpaired.lines
  have hvalue := value_printed hpad hlines
  refine ⟨body _ (Text.lines description.toList), printed _ _, ?_, read_body hpad _, hvalue, ?_⟩
  · rw [toList_renderLines, layout_shift, List.nil_append, layout_descriptionLines]
  · rcases hsplit with hsplit | hsplit
    · rw [hvalue, hsplit]
    · rw [hvalue, hsplit, dedent_concat_nil]

/-- Lines at two depths around a blank one, more quotes than three in a row, quotes behind a
backslash, and a return with its line feed. -/
def motley : String := "\n  one \"\"\"\"\r\n \t\n    \\\"\"\"two\n\n"

theorem description_reads_back_motley : PairedReturns motley.toList ∧ ∃ body raw,
    (renderLines .standard ((descriptionLines (some motley)).map (·.shift 1))).toList =
      "  ".toList ++ (fence ++ body) ∧
    (∀ rest, read (body ++ rest) = some (raw, '\n' :: rest)) ∧
    value raw = "one \"\"\"\"\n\n  \\\"\"\"two".toList := by
  have hpaired : PairedReturns motley.toList := by decide
  obtain ⟨body, raw, hprinted, hread, hvalue, -⟩ :=
    description_reads_back motley hpaired .standard 1
  exact ⟨hpaired, body, raw, hprinted, hread, hvalue.trans (by decide)⟩

end GraphSchema.Sdl.BlockString
