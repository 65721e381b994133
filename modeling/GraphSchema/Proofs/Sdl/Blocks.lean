import GraphSchema.Proofs.Sdl.Extension
import GraphSchema.Proofs.Sdl.Layout

/-!
# Blocks of types

A type prints as a block whose header tells its kind and its name. Nothing else at the margin looks
like a header, apart from lines of descriptions, so the blocks can be counted in the text.
-/

namespace GraphSchema

/-- The word in front of the name of a type. -/
def TypeKind.keyword : TypeKind → String
  | object => "type"
  | interface => "interface"
  | union => "union"
  | enum => "enum"
  | inputObject => "input"
  | scalar => "scalar"

def TypeKind.all : List TypeKind := [object, interface, union, enum, inputObject, scalar]

namespace Sdl

open Text

/-! ## Headers -/

/-- What may stand below the header of a block. -/
inductive Inner : Line → Prop where
  | blank : Inner .blank
  | deeper (level : Nat) (text : String) : Inner (.text (level + 1) text)
  | close : Inner (.text 0 "\x7d")

theorem inner_shift (line : Line) : Inner (line.shift 1) := by
  cases line with
  | blank => exact .blank
  | text level s => exact .deeper level s

theorem inner_braced (body : List Line) :
    ∀ line ∈ body.map (·.shift 1) ++ [.text 0 "\x7d"], Inner line :=
  List.forall_mem_append.2 ⟨List.forall_mem_map.2 fun line _ => inner_shift line,
    List.forall_mem_singleton.2 .close⟩

/-- The text may stand behind a word without going on with it. -/
def Apart (text : String) : Prop := text = "" ∨ ∃ rest, text = " " ++ rest

theorem Apart.append {text other : String} (h : Apart text) (hother : Apart other) :
    Apart (text ++ other) := by
  rcases h with rfl | ⟨rest, rfl⟩
  · rwa [String.empty_append]
  · exact .inr ⟨rest ++ other, String.append_assoc⟩

theorem apart_implements (interfaces : List String) : Apart (implementsText interfaces) := by
  unfold implementsText
  split
  · exact .inl rfl
  · refine .inr ⟨"implements " ++ String.intercalate " & " interfaces, ?_⟩
    simp [← String.append_assoc]

/-- The lines have one header, which begins with these words. -/
def Headed (words : String) (lines : List Line) : Prop :=
  ∃ rest body, lines = .text 0 (words ++ rest) :: body ∧ Apart rest ∧ ∀ line ∈ body, Inner line

namespace Headed

theorem single {words rest : String} (h : Apart rest) : Headed words [.text 0 (words ++ rest)] :=
  ⟨rest, [], rfl, h, nofun⟩

theorem alone (words : String) : Headed words [.text 0 words] :=
  ⟨"", [], by rw [String.append_empty], .inl rfl, nofun⟩

theorem braced (words : String) (isEmpty : Bool) (body : List Line) :
    Headed words (bracedLines words isEmpty body) := by
  unfold bracedLines
  split
  · exact .alone words
  · exact ⟨" \x7b", _, rfl, .inr ⟨"\x7b", by decide⟩, inner_braced body⟩

theorem fewer {words more : String} {lines : List Line} (hmore : Apart more)
    (h : Headed (words ++ more) lines) : Headed words lines := by
  obtain ⟨rest, body, rfl, hrest, hbody⟩ := h
  exact ⟨more ++ rest, body, by rw [String.append_assoc], hmore.append hrest, hbody⟩

end Headed

theorem headed_lines (schema : Schema) (naming : Naming) (name : String) (body : TypeBody) :
    Headed (body.kind.keyword ++ " " ++ name) ((printedBody schema naming body).lines name) := by
  have hwords : ∀ (kind : TypeKind) (word : String), kind.keyword ++ " " = word →
      ∀ {lines : List Line}, Headed (word ++ name) lines →
        Headed (kind.keyword ++ " " ++ name) lines := by
    rintro kind _ rfl _ h
    exact h
  cases body with
  | object interfaces =>
    exact hwords .object "type " (by decide)
      ((Headed.braced _ _ _).fewer (apart_implements interfaces))
  | interface interfaces =>
    exact hwords .interface "interface " (by decide)
      ((Headed.braced _ _ _).fewer (apart_implements interfaces))
  | inputObject => exact hwords .inputObject "input " (by decide) (.braced _ _ _)
  | enum => exact hwords .enum "enum " (by decide) (.braced _ _ _)
  | scalar => exact hwords .scalar "scalar " (by decide) (.alone _)
  | union members =>
    refine hwords .union "union " (by decide) ?_
    change Headed _ [.text 0 (unionText name members)]
    unfold unionText
    split
    · exact .alone _
    · rw [String.append_assoc]
      refine .single (.inr ⟨"= " ++ String.intercalate " | " members, ?_⟩)
      simp [← String.append_assoc]

/-- The block defines a type: under a description, if there is one, its header stands. -/
def Defines (kind : TypeKind) (name : String) (block : List Line) : Prop :=
  ∃ (description : Description) (lines : List Line),
    block = description.above lines ∧ Headed (kind.keyword ++ " " ++ name) lines

theorem defines_of_typeLines {schema : Schema} {naming : Naming} {type : TypeDef}
    {block : List Line} (h : typeLines schema naming type = .ok block) :
    Defines type.kind type.name block :=
  ⟨_, _, lines_of_typeLines h, headed_lines schema naming type.name type.body⟩

/-! ## Counting in a text -/

def isHeader (line : List Char) : Bool :=
  TypeKind.all.any fun kind => (kind.keyword ++ " ").toList.isPrefixOf line

/-- How many headers there are among the lines, but for those in descriptions. The flag tells whether
a description is open. -/
def countHeaders : Bool → List (List Char) → Nat
  | _, [] => 0
  | described, line :: rest =>
    if line = fence then countHeaders (!described) rest
    else (if !described && isHeader line then 1 else 0) + countHeaders described rest

/-- How many types a text defines. -/
def countTypes (text : String) : Nat := countHeaders false (split '\n' text.toList)

/-- Whether a line of a block is one line of the text. -/
def Line.isWhole : Line → Bool
  | blank => true
  | text _ s => !s.toList.contains '\n'

/-- A line without its line feed. -/
def Line.content (step : List Char) : Line → List Char
  | blank => []
  | text level s => (List.replicate level step).flatten ++ s.toList

theorem Line.chars_eq (step : List Char) (line : Line) :
    line.chars step [] = line.content step ++ ['\n'] := by
  cases line <;> simp [chars, content]

section

variable {step : List Char} (hstep : Blank step)
include hstep

theorem not_mem_content {line : Line} (h : line.isWhole) : '\n' ∉ line.content step := by
  cases line with
  | blank => exact List.not_mem_nil
  | text level s =>
    rw [Line.content, List.mem_append, not_or]
    refine ⟨fun hmem => ?_, by simpa [Line.isWhole] using h⟩
    obtain ⟨part, hpart, hmem⟩ := List.mem_flatten.1 hmem
    rw [List.eq_of_mem_replicate hpart] at hmem
    exact hstep.not_mem hmem

/-- Lines that are whole can be read off their text. -/
theorem split_layout {lines : List Line} (h : ∀ line ∈ lines, line.isWhole) :
    split '\n' (layout step [] lines) = lines.map (Line.content step) ++ [[]] := by
  induction lines with
  | nil => rfl
  | cons line rest ih =>
    rw [List.forall_mem_cons] at h
    have hlayout : layout step [] (line :: rest) =
        line.content step ++ '\n' :: layout step [] rest := by
      rw [layout, List.flatMap_cons, Line.chars_eq, List.append_assoc]
      rfl
    rw [hlayout, split_append, split_of_not_mem (not_mem_content hstep h.1), ih h.2]
    rfl

end

/-! ## Counting line by line -/

theorem separated_cons_cons (block next : List Line) (rest : List (List Line)) :
    separated (block :: next :: rest) = block ++ ([.blank] ++ separated (next :: rest)) := by
  simp [separated]

/-- The lines add so many headers, wherever they stand outside descriptions. -/
def Adds (step : List Char) (count : Nat) (lines : List Line) : Prop :=
  ∀ rest, countHeaders false (lines.map (Line.content step) ++ rest) =
    count + countHeaders false rest

theorem countHeaders_fence (described : Bool) (rest : List (List Char)) :
    countHeaders described (fence :: rest) = countHeaders (!described) rest :=
  if_pos rfl

theorem content_margin (step : List Char) (s : String) :
    (Line.text 0 s).content step = s.toList := rfl

theorem content_escaped (step line : List Char) :
    (Line.ofChars (escapeQuotes line)).content step = escapeQuotes line := by
  unfold Line.ofChars
  split
  · rename_i hempty
    rw [List.isEmpty_iff.1 hempty]
    rfl
  · rw [content_margin, String.toList_ofList]

/-- Nothing counts between the fences of a description, and no line there is a fence. -/
theorem countHeaders_described (step : List Char) (content rest : List (List Char)) :
    countHeaders true ((content.map fun line =>
        (Line.ofChars (escapeQuotes line)).content step) ++ rest) =
      countHeaders true rest := by
  induction content with
  | nil => rfl
  | cons line content ih =>
    have hfence : escapeQuotes line ≠ fence := escapeQuotes_ne_quotes line []
    rw [List.map_cons, List.cons_append, content_escaped, countHeaders, if_neg hfence, Bool.not_true,
      Bool.false_and, if_neg Bool.false_ne_true, Nat.zero_add, ih]

/-- No line that is further in begins like a header. -/
theorem plain_inner {step : List Char} (hstep : Blank step) (hne : step ≠ []) {line : Line}
    (h : Inner line) : line.content step ≠ fence ∧ isHeader (line.content step) = false := by
  cases h with
  | blank =>
    have hplain : ([] : List Char) ≠ fence ∧ isHeader [] = false := by decide
    exact hplain
  | close =>
    have hplain : "\x7d".toList ≠ fence ∧ isHeader "\x7d".toList = false := by decide
    exact hplain
  | deeper level s =>
    -- It begins as the indentation does, and no keyword begins with a blank.
    obtain ⟨c, tail, rfl⟩ := List.exists_cons_of_ne_nil hne
    have hcontent : (Line.text (level + 1) s).content (c :: tail) =
        c :: (tail ++ (Line.text level s).content (c :: tail)) := by
      simp [Line.content, List.replicate_succ]
    rw [hcontent]
    rcases hstep c List.mem_cons_self with rfl | rfl <;> exact ⟨nofun, rfl⟩

theorem isHeader_words (kind : TypeKind) (rest : String) :
    isHeader (kind.keyword ++ " " ++ rest).toList := by
  have hall : kind ∈ TypeKind.all := by cases kind <;> decide
  have hprefix : (kind.keyword ++ " ").toList <+: (kind.keyword ++ " " ++ rest).toList :=
    ⟨rest.toList, String.toList_append.symm⟩
  exact List.any_eq_true.2 ⟨kind, hall, List.isPrefixOf_iff_prefix.2 hprefix⟩

namespace Adds

variable {step : List Char}

theorem nil : Adds step 0 [] := fun _ => (Nat.zero_add _).symm

theorem append {count more : Nat} {lines others : List Line} (h : Adds step count lines)
    (hothers : Adds step more others) : Adds step (count + more) (lines ++ others) := by
  intro rest
  rw [List.map_append, List.append_assoc, h, hothers, Nat.add_assoc]

theorem plain {line : Line} (hfence : line.content step ≠ fence)
    (hheader : isHeader (line.content step) = false) : Adds step 0 [line] := by
  intro rest
  rw [List.map_singleton, List.singleton_append, countHeaders, if_neg hfence, hheader]
  rfl

theorem all {lines : List Line} (h : ∀ line ∈ lines, Adds step 0 [line]) : Adds step 0 lines := by
  induction lines with
  | nil => exact nil
  | cons line rest ih =>
    rw [List.forall_mem_cons] at h
    exact h.1.append (ih h.2)

theorem above {count : Nat} {lines : List Line} (h : Adds step count lines)
    (description : Description) : Adds step count (description.above lines) := by
  cases description with
  | none => exact h
  | some content =>
    intro rest
    have hfence : (Line.text 0 "\"\"\"").content step = fence := by
      rw [content_margin]
      decide
    simp only [Description.above, List.map_append, List.map_cons, List.map_map, List.cons_append,
      List.append_assoc, hfence]
    rw [countHeaders_fence]
    refine (countHeaders_described step content _).trans ?_
    rw [countHeaders_fence]
    exact h rest

variable (hstep : Blank step) (hne : step ≠ [])
include hstep hne

theorem inner {lines : List Line} (h : ∀ line ∈ lines, Inner line) : Adds step 0 lines :=
  all fun line hline =>
    have hplain := plain_inner hstep hne (h line hline)
    plain hplain.1 hplain.2

theorem headed {kind : TypeKind} {name : String} {lines : List Line}
    (h : Headed (kind.keyword ++ " " ++ name) lines) : Adds step 1 lines := by
  obtain ⟨rest, body, rfl, -, hbody⟩ := h
  have hheader := isHeader_words kind (name ++ rest)
  rw [← String.append_assoc] at hheader
  have hfence : (kind.keyword ++ " " ++ name ++ rest).toList ≠ fence := by
    intro heq
    rw [heq] at hheader
    revert hheader
    decide
  intro more
  rw [List.map_cons, List.cons_append, content_margin, countHeaders, if_neg hfence, hheader,
    inner hstep hne hbody more, Nat.zero_add]
  rfl

theorem roots (roots : Roots) : ∀ block ∈ rootsBlock roots, Adds step 0 block := by
  unfold rootsBlock
  split
  · nofun
  · rw [List.forall_mem_singleton]
    have hopening : "schema \x7b".toList ≠ fence ∧ isHeader "schema \x7b".toList = false := by decide
    have hheader : Adds step 0 [.text 0 "schema \x7b"] := plain hopening.1 hopening.2
    exact hheader.append (inner hstep hne (inner_braced _))

theorem separated {counts : List Nat} {blocks : List (List Line)}
    (h : List.Forall₂ (Adds step) counts blocks) : Adds step counts.sum (separated blocks) := by
  have hblank : Adds step 0 [.blank] := inner hstep hne (List.forall_mem_singleton.2 .blank)
  induction h with
  | nil => exact nil
  | @cons count block counts blocks hblock hrest ih =>
    cases blocks with
    | nil =>
      obtain rfl := List.forall₂_nil_right_iff.1 hrest
      simpa [Sdl.separated] using hblock
    | cons next blocks =>
      rw [separated_cons_cons, List.sum_cons]
      have hmore := hblank.append ih
      rw [Nat.zero_add] at hmore
      exact hblock.append hmore

end Adds

/-- Where no line is broken, the types that are defined can be counted in the text. -/
theorem countTypes_blocksText {α : Type} (indent : Indent) (roots : Roots) {kind : α → TypeKind}
    {name : α → String} {items : List α} {blocks : List (List Line)}
    (h : List.Forall₂ (fun item block => Defines (kind item) (name item) block) items blocks)
    (hwhole : ∀ line ∈ separated (rootsBlock roots ++ blocks), line.isWhole) :
    countTypes (blocksText indent (rootsBlock roots ++ blocks)) = items.length := by
  obtain ⟨hstep, hne⟩ := blank_indent indent
  have hroots : List.Forall₂ (Adds indent.text.toList) ((rootsBlock roots).map fun _ => 0)
      (rootsBlock roots) := by
    rw [List.forall₂_map_left_iff, List.forall₂_same]
    exact Adds.roots hstep hne roots
  have htypes : List.Forall₂ (Adds indent.text.toList) (items.map fun _ => 1) blocks := by
    rw [List.forall₂_map_left_iff]
    refine h.imp fun item block hdefines => ?_
    obtain ⟨description, lines, rfl, hheaded⟩ := hdefines
    exact (Adds.headed hstep hne hheaded).above description
  -- The block of the roots adds no header, and each type adds one.
  have hcount := Adds.separated hstep hne (List.rel_append hroots htypes)
  have hend : countHeaders false [[]] = 0 := by decide
  rw [countTypes, ← renderLines_separated, toList_renderLines, split_layout hstep hwhole, hcount,
    hend]
  simp

end Sdl

end GraphSchema
