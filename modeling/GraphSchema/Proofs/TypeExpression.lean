import GraphSchema.Proofs.Name
import GraphSchema.Results
import GraphSchema.Schema.TypeRef

/-!
# Type expressions

The grammar of type expressions works on tokens, with blanks anywhere around them. The reader works
on the text, from the outside in. It reads exactly what the grammar derives, and what it reads
prints as the expression without its blanks.
-/

namespace GraphSchema

namespace Text

/-! ## Blanks around a text -/

def AllBlank (text : List Char) : Prop := ∀ c ∈ text, isBlank c

theorem AllBlank.nil : AllBlank [] := by
  simp [AllBlank]

theorem AllBlank.append {left right : List Char} (hleft : AllBlank left) (hright : AllBlank right) :
    AllBlank (left ++ right) := by
  unfold AllBlank
  rw [List.forall_mem_append]
  exact ⟨hleft, hright⟩

theorem trimStart_append {left : List Char} (h : AllBlank left) (text : List Char) :
    trimStart (left ++ text) = trimStart text := by
  unfold trimStart
  exact List.dropWhile_append_of_pos h

theorem trimEnd_append {right : List Char} (h : AllBlank right) (text : List Char) :
    trimEnd (text ++ right) = trimEnd text := by
  have hreverse : ∀ c ∈ right.reverse, isBlank c := fun c hc => h c (List.mem_reverse.1 hc)
  unfold trimEnd
  rw [List.reverse_append, List.dropWhile_append_of_pos hreverse]

theorem trimStart_eq_self {text : List Char} {c : Char} (h : text.head? = some c)
    (hc : isBlank c = false) : trimStart text = text := by
  obtain ⟨rest, rfl⟩ := List.head?_eq_some_iff.1 h
  unfold trimStart
  rw [List.dropWhile_cons_of_neg (by simp [hc])]

theorem trimEnd_eq_self {text : List Char} {c : Char} (h : text.getLast? = some c)
    (hc : isBlank c = false) : trimEnd text = text := by
  have hreverse : trimStart text.reverse = text.reverse := by
    apply trimStart_eq_self _ hc
    rw [List.head?_reverse, h]
  unfold trimEnd
  unfold trimStart at hreverse
  rw [hreverse, List.reverse_reverse]

/-- What stands between blanks, and has none at its own ends, is what trimming leaves. -/
theorem trim_eq {left text right : List Char} {first last : Char} (hleft : AllBlank left)
    (hright : AllBlank right) (hfirst : text.head? = some first) (hfirst' : isBlank first = false)
    (hlast : text.getLast? = some last) (hlast' : isBlank last = false) :
    trim (left ++ text ++ right) = text := by
  have hhead : (text ++ right).head? = some first := by
    rw [List.head?_append, hfirst, Option.some_or]
  unfold trim
  rw [List.append_assoc, trimStart_append hleft, trimStart_eq_self hhead hfirst',
    trimEnd_append hright, trimEnd_eq_self hlast hlast']

theorem eq_append_trimStart (text : List Char) :
    ∃ left, AllBlank left ∧ text = left ++ trimStart text := by
  refine ⟨text.takeWhile isBlank, ?_, ?_⟩
  · intro c hc
    exact List.mem_takeWhile_imp hc
  · unfold trimStart
    rw [List.takeWhile_append_dropWhile]

theorem eq_trimEnd_append (text : List Char) :
    ∃ right, AllBlank right ∧ text = trimEnd text ++ right := by
  obtain ⟨left, hleft, heq⟩ := eq_append_trimStart text.reverse
  refine ⟨left.reverse, ?_, ?_⟩
  · intro c hc
    exact hleft c (List.mem_reverse.1 hc)
  · have hreverse := congrArg List.reverse heq
    rwa [List.reverse_reverse, List.reverse_append] at hreverse

end Text

namespace Name

theorem not_blank_of_isPart {c : Char} (h : isPart c = true) : Text.isBlank c = false := by
  by_cases hc : c = '_'
  · rw [hc]
    decide
  · have hall : ∀ n < 128, isPart (Char.ofNat n) = true → Text.isBlank (Char.ofNat n) = false := by
      decide
    exact forall_ascii (P := fun c => isPart c = true → Text.isBlank c = false) hall
      (toNat_lt_of_isAlphanum (isAlphanum_of_isPart h hc)) h

end Name

namespace TypeRef

open Text

/-! ## The grammar -/

inductive Token where
  | word (name : String)
  | bang
  | openList
  | closeList
  deriving DecidableEq

def Token.chars : Token → List Char
  | word name => name.toList
  | bang => ['!']
  | openList => ['[']
  | closeList => [']']

def bangs : Bool → List Token
  | true => [.bang]
  | false => []

/-- `ty := name '!'? | '[' ty ']' '!'?` -/
inductive Derives : TypeRef → List Token → Prop where
  | name {name : String} (valid : Name.isValid name) (marked : Bool) :
    Derives (mark marked (.named name)) (Token.word name :: bangs marked)
  | list {item : TypeRef} {tokens : List Token} (inner : Derives item tokens) (marked : Bool) :
    Derives (mark marked (.list item)) (.openList :: tokens ++ .closeList :: bangs marked)

/-- The text consists of the tokens, with any blanks before, between and after them. -/
inductive Spells : List Token → List Char → Prop where
  | nil {blanks : List Char} (blank : AllBlank blanks) : Spells [] blanks
  | cons {blanks text : List Char} {token : Token} {tokens : List Token} (blank : AllBlank blanks)
      (rest : Spells tokens text) : Spells (token :: tokens) (blanks ++ token.chars ++ text)

/-- Names are valid and no non-null marker stands directly inside another one. -/
def WellFormed : TypeRef → Prop
  | named name => Name.isValid name
  | nonNull (nonNull _) => False
  | nonNull inner => inner.WellFormed
  | list item => item.WellFormed

/-! ## Tokens in a text -/

namespace Spells

theorem blanks_append {blanks text : List Char} {tokens : List Token} (h : AllBlank blanks)
    (hspells : Spells tokens text) : Spells tokens (blanks ++ text) := by
  cases hspells with
  | nil blank => exact .nil (h.append blank)
  | cons blank rest =>
    rw [← List.append_assoc, ← List.append_assoc]
    exact .cons (h.append blank) rest

theorem append {first second : List Token} {text more : List Char} (h : Spells first text)
    (h' : Spells second more) : Spells (first ++ second) (text ++ more) := by
  induction h with
  | nil blank => exact h'.blanks_append blank
  | cons blank _ ih =>
    rw [List.cons_append, List.append_assoc]
    exact .cons blank ih

theorem append_blanks {blanks text : List Char} {tokens : List Token} (h : Spells tokens text)
    (hblanks : AllBlank blanks) : Spells tokens (text ++ blanks) := by
  rw [← List.append_nil tokens]
  exact h.append (.nil hblanks)

theorem token (token : Token) : Spells [token] token.chars := by
  have h : Spells [token] ([] ++ token.chars ++ []) := .cons AllBlank.nil (.nil AllBlank.nil)
  rwa [List.nil_append, List.append_nil] at h

/-- A text of two lists of tokens can be cut between them. -/
theorem split {first second : List Token} {text : List Char} (h : Spells (first ++ second) text) :
    ∃ left right, text = left ++ right ∧ Spells first left ∧ Spells second right := by
  induction first generalizing text with
  | nil => exact ⟨[], text, rfl, .nil AllBlank.nil, h⟩
  | cons token first ih =>
    cases h with
    | @cons blanks text _ _ blank rest =>
      obtain ⟨left, right, rfl, hleft, hright⟩ := ih rest
      refine ⟨blanks ++ token.chars ++ left, right, ?_, .cons blank hleft, hright⟩
      rw [List.append_assoc _ left]

theorem of_trim {text : List Char} {tokens : List Token} (h : Spells tokens (trim text)) :
    Spells tokens text := by
  obtain ⟨left, hleft, heq⟩ := eq_append_trimStart text
  obtain ⟨right, hright, hend⟩ := eq_trimEnd_append (trimStart text)
  rw [heq, hend]
  exact (h.append_blanks hright).blanks_append hleft

/-- Without its blanks, a text is its tokens. -/
theorem filter_eq {text : List Char} {tokens : List Token} (h : Spells tokens text)
    (hsolid : ∀ token ∈ tokens, ∀ c ∈ token.chars, isBlank c = false) :
    text.filter (!isBlank ·) = tokens.flatMap Token.chars := by
  have hblanks : ∀ {blanks : List Char}, AllBlank blanks → blanks.filter (!isBlank ·) = [] := by
    intro blanks hblank
    rw [List.filter_eq_nil_iff]
    intro c hc
    simp [hblank c hc]
  induction h with
  | nil blank => exact hblanks blank
  | @cons blanks text token tokens blank _ ih =>
    rw [List.forall_mem_cons] at hsolid
    have htoken : token.chars.filter (!isBlank ·) = token.chars := by
      rw [List.filter_eq_self]
      intro c hc
      simp [hsolid.1 c hc]
    rw [List.filter_append, List.filter_append, hblanks blank, htoken, ih hsolid.2,
      List.nil_append, List.flatMap_cons]

end Spells

/-! ## Derivations -/

theorem text_mark (marked : Bool) (type : TypeRef) :
    (mark marked type).text.toList = type.text.toList ++ (bangs marked).flatMap Token.chars := by
  cases marked <;> simp [mark, bangs, text, Token.chars]

namespace Derives

theorem toList_text {type : TypeRef} {tokens : List Token} (h : Derives type tokens) :
    type.text.toList = tokens.flatMap Token.chars := by
  induction h with
  | name valid marked => rw [text_mark, List.flatMap_cons, text, Token.chars]
  | list _ marked ih =>
    rw [text_mark, text]
    simp [Token.chars, ih]

theorem solid {type : TypeRef} {tokens : List Token} (h : Derives type tokens) :
    ∀ token ∈ tokens, ∀ c ∈ token.chars, isBlank c = false := by
  have hbang : ∀ c ∈ Token.bang.chars, isBlank c = false := List.forall_mem_singleton.2 rfl
  have hopen : ∀ c ∈ Token.openList.chars, isBlank c = false := List.forall_mem_singleton.2 rfl
  have hclose : ∀ c ∈ Token.closeList.chars, isBlank c = false := List.forall_mem_singleton.2 rfl
  have hbangs : ∀ marked, ∀ token ∈ bangs marked, ∀ c ∈ token.chars, isBlank c = false := by
    intro marked
    cases marked with
    | true => exact List.forall_mem_singleton.2 hbang
    | false => exact List.forall_mem_nil _
  induction h with
  | @name name valid marked =>
    have hword : ∀ c ∈ (Token.word name).chars, isBlank c = false := by
      intro c hc
      exact Name.not_blank_of_isPart (Name.isPart_of_isValid valid c hc)
    rw [List.forall_mem_cons]
    exact ⟨hword, hbangs marked⟩
  | list _ marked ih =>
    rw [List.forall_mem_append, List.forall_mem_cons, List.forall_mem_cons]
    exact ⟨⟨hopen, ih⟩, hclose, hbangs marked⟩

theorem wellFormed {type : TypeRef} {tokens : List Token} (h : Derives type tokens) :
    type.WellFormed := by
  induction h with
  | name valid marked => cases marked <;> exact valid
  | list _ marked ih => cases marked <;> exact ih

theorem spells_text {type : TypeRef} {tokens : List Token} (h : Derives type tokens) :
    Spells tokens type.text.toList := by
  have hall : ∀ tokens : List Token, Spells tokens (tokens.flatMap Token.chars) := by
    intro tokens
    induction tokens with
    | nil => exact .nil AllBlank.nil
    | cons token rest ih => exact (Spells.token token).append ih
  rw [h.toList_text]
  exact hall tokens

end Derives

theorem WellFormed.derives {type : TypeRef} (h : type.WellFormed) :
    ∃ tokens, Derives type tokens := by
  match type with
  | named name => exact ⟨_, .name h false⟩
  | nonNull (named name) => exact ⟨_, .name h true⟩
  | nonNull (nonNull _) => exact h.elim
  | nonNull (list item) =>
    obtain ⟨tokens, hitem⟩ := (show item.WellFormed from h).derives
    exact ⟨_, .list hitem true⟩
  | list item =>
    obtain ⟨tokens, hitem⟩ := (show item.WellFormed from h).derives
    exact ⟨_, .list hitem false⟩

/-! ## Reading -/

theorem eq_concat_of_stripLast? {c : Char} {text rest : List Char}
    (h : stripLast? c text = some rest) : text = rest ++ [c] := by
  unfold stripLast? at h
  split at h
  · rename_i hlast
    rw [← Option.some.inj h]
    exact (List.dropLast_append_getLast? c hlast).symm
  · cases h

theorem stripLast?_concat (c : Char) (text : List Char) :
    stripLast? c (text ++ [c]) = some text := by
  simp [stripLast?]

/-- A text without blanks at its ends that does not end with a mark. -/
structure Core (text : List Char) : Prop where
  first : ∃ c, text.head? = some c ∧ isBlank c = false
  last : ∃ c, text.getLast? = some c ∧ isBlank c = false ∧ c ≠ '!'

theorem core_of_isValid {name : String} (h : Name.isValid name) : Core name.toList := by
  obtain ⟨c, rest, htext, hstart, -⟩ := Name.isValid_iff.1 h
  have hparts := Name.isPart_of_isValid h
  have hlast : name.toList.getLast? = some (name.toList.getLast (by simp [htext])) :=
    List.getLast?_eq_some_getLast _
  have hpart := hparts _ (List.mem_of_getLast? hlast)
  refine ⟨⟨c, ?_, Name.not_blank_of_isPart (Name.isPart_of_isStart hstart)⟩,
    ⟨_, hlast, Name.not_blank_of_isPart hpart, ?_⟩⟩
  · rw [htext, List.head?_cons]
  · intro heq
    rw [heq] at hpart
    cases hpart

theorem core_list (inner : List Char) : Core ('[' :: inner ++ [']']) := by
  refine ⟨⟨'[', rfl, rfl⟩, ⟨']', List.getLast?_concat, rfl, by decide⟩⟩

/-- Trimming leaves a type and its mark, which are then parted. -/
theorem splitMark_trim {left core tail : List Char} {marked : Bool} (hleft : AllBlank left)
    (hcore : Core core) (htail : Spells (bangs marked) tail) :
    splitMark (trim (left ++ core ++ tail)) = (core, marked) := by
  obtain ⟨first, hfirst, hfirst'⟩ := hcore.first
  obtain ⟨last, hlast, hlast', hne⟩ := hcore.last
  unfold splitMark
  cases marked with
  | false =>
    cases htail with
    | nil hblank =>
      have hnone : stripLast? '!' core = none := by
        unfold stripLast?
        rw [hlast, if_neg]
        exact fun heq => hne (Option.some.inj heq)
      rw [trim_eq hleft hblank hfirst hfirst' hlast hlast', hnone]
  | true =>
    cases htail with
    | @cons blanks _ _ _ hblanks hrest =>
      cases hrest with
      | nil hright =>
        rename_i right
        have hhead : (core ++ blanks ++ ['!']).head? = some first := by
          rw [List.append_assoc, List.head?_append, hfirst, Option.some_or]
        have htrim : trim (left ++ core ++ (blanks ++ Token.bang.chars ++ right)) =
            core ++ blanks ++ ['!'] := by
          have heq : left ++ core ++ (blanks ++ Token.bang.chars ++ right) =
              left ++ (core ++ blanks ++ ['!']) ++ right := by
            simp [Token.chars]
          rw [heq]
          exact trim_eq hleft hright hhead hfirst' List.getLast?_concat rfl
        rw [htrim, stripLast?_concat]
        dsimp only
        rw [trimEnd_append hblanks, trimEnd_eq_self hlast hlast']

theorem parseChars_of_name {text : List Char} {name : String} {marked : Bool}
    (hsplit : splitMark text = (name.toList, marked)) (hvalid : Name.isValid name) :
    parseChars text = .ok (mark marked (.named name)) := by
  have hflaw : Name.flawOf? name.toList = none := Option.isNone_iff_eq_none.1 hvalid
  obtain ⟨c, hlast, -, hne⟩ := (core_of_isValid hvalid).last
  obtain ⟨d, rest, htext, hstart, -⟩ := Name.isValid_iff.1 hvalid
  have hbracket : d ≠ '[' := by
    rintro rfl
    cases hstart
  rw [parseChars]
  simp only [hsplit, hlast, Option.some.injEq, hne, and_false, if_false]
  split
  · rename_i heq
    rw [hsplit, htext] at heq
    exact absurd (List.cons.inj heq).1 hbracket
  · rw [hsplit, hflaw, String.ofList_toList]

theorem parseChars_of_list {text inner : List Char} {item : TypeRef} {marked : Bool}
    (hsplit : splitMark text = ('[' :: inner ++ [']'], marked))
    (hitem : parseChars (trim inner) = .ok item) :
    parseChars text = .ok (mark marked (.list item)) := by
  obtain ⟨c, hlast, -, hne⟩ := (core_list inner).last
  rw [parseChars]
  simp only [hsplit, hlast, Option.some.injEq, hne, and_false, if_false]
  split
  · rename_i after heq
    rw [hsplit] at heq
    obtain rfl : inner ++ [']'] = after := (List.cons.inj heq).2
    split
    · rename_i hnone
      rw [stripLast?_concat] at hnone
      cases hnone
    · rename_i other hother
      rw [stripLast?_concat, Option.some.injEq] at hother
      rw [← hother, hitem]
      rfl
  · rename_i hno
    rw [hsplit] at hno
    exact absurd rfl (hno (inner ++ [']']))

/-- The marks that are split off are tokens of the text. -/
theorem spells_of_splitMark {text : List Char} {tokens : List Token}
    (h : Spells tokens (splitMark text).1) : Spells (tokens ++ bangs (splitMark text).2) text := by
  unfold splitMark at h ⊢
  split at h
  · rename_i body hbody
    obtain ⟨right, hright, heq⟩ := eq_trimEnd_append body
    rw [eq_concat_of_stripLast? hbody, heq]
    exact (h.append_blanks hright).append (Spells.token .bang)
  · rw [bangs, List.append_nil]
    exact h

theorem derives_of_parseChars {text : List Char} {type : TypeRef}
    (h : parseChars text = .ok type) : ∃ tokens, Derives type tokens ∧ Spells tokens text := by
  fun_induction parseChars text generalizing type with
  | case1 => cases h
  | case2 => cases h
  | case3 text _ _ after hbody inner hinner =>
    rename_i ih
    -- The inner text was trimmed before it was read.
    obtain ⟨item, hitem, hpure⟩ := bind_eq_ok_iff.1 h
    obtain ⟨tokens, hderives, hspells⟩ := ih hitem
    rw [← Except.ok.inj hpure]
    refine ⟨_, .list hderives _, ?_⟩
    have hcore : Spells ([.openList] ++ (tokens ++ [.closeList])) (splitMark text).1 := by
      rw [hbody, eq_concat_of_stripLast? hinner]
      exact (Spells.token .openList).append (hspells.of_trim.append (Spells.token .closeList))
    simpa using spells_of_splitMark hcore
  | case4 => cases h
  | case5 text =>
    rename_i hflaw
    rw [← Except.ok.inj h]
    have hvalid : Name.isValid (String.ofList (splitMark text).1) := by
      unfold Name.isValid Name.flaw?
      rw [String.toList_ofList, hflaw, Option.isNone_none]
    refine ⟨_, .name hvalid _, ?_⟩
    have hword := Spells.token (.word (String.ofList (splitMark text).1))
    rw [Token.chars, String.toList_ofList] at hword
    exact spells_of_splitMark hword

theorem parseChars_of_derives {type : TypeRef} {tokens : List Token} (h : Derives type tokens)
    {text : List Char} (hspells : Spells tokens text) : parseChars (trim text) = .ok type := by
  induction h generalizing text with
  | @name name valid marked =>
    cases hspells with
    | cons hleft htail =>
      exact parseChars_of_name (splitMark_trim hleft (core_of_isValid valid) htail) valid
  | @list item tokens _ marked ih =>
    cases hspells with
    | @cons left _ _ _ hleft hrest =>
      obtain ⟨inner, rest, rfl, hinner, hend⟩ := hrest.split
      cases hend with
      | @cons blanks tail _ _ hblanks htail =>
        have heq : left ++ Token.openList.chars ++ (inner ++ (blanks ++ Token.closeList.chars ++ tail)) =
            left ++ ('[' :: (inner ++ blanks) ++ [']']) ++ tail := by
          simp [Token.chars]
        rw [heq]
        exact parseChars_of_list (splitMark_trim hleft (core_list _) htail)
          (ih (hinner.append_blanks hblanks))

/-! ## Expressions -/

theorem parse_eq_ok_iff {expression : String} {type : TypeRef} :
    parse expression = .ok type ↔ parseChars (trim expression.toList) = .ok type := by
  unfold parse
  split
  · rename_i found hfound
    rw [hfound]
    simp
  · rename_i flaw hflaw
    rw [hflaw]
    simp

/-- Reading accepts exactly the expressions that the grammar derives and gives the type of the
derivation. That type is well formed and prints as the expression without its blanks. And every
well-formed type is read back from what it prints. -/
theorem parse_follows_grammar :
    (∀ (expression : String) (type : TypeRef), parse expression = .ok type ↔
      ∃ tokens, Derives type tokens ∧ Spells tokens expression.toList) ∧
    (∀ (expression : String) (type : TypeRef), parse expression = .ok type →
      type.WellFormed ∧ type.text = String.ofList (expression.toList.filter (!isBlank ·))) ∧
    ∀ type : TypeRef, type.WellFormed → parse type.text = .ok type := by
  have hgrammar : ∀ (expression : String) (type : TypeRef), parse expression = .ok type ↔
      ∃ tokens, Derives type tokens ∧ Spells tokens expression.toList := by
    intro expression type
    rw [parse_eq_ok_iff]
    constructor
    · intro h
      obtain ⟨tokens, hderives, hspells⟩ := derives_of_parseChars h
      exact ⟨tokens, hderives, hspells.of_trim⟩
    · rintro ⟨tokens, hderives, hspells⟩
      exact parseChars_of_derives hderives hspells
  refine ⟨hgrammar, ?_, ?_⟩
  · intro expression type h
    obtain ⟨tokens, hderives, hspells⟩ := (hgrammar expression type).1 h
    refine ⟨hderives.wellFormed, ?_⟩
    apply String.toList_inj.1
    rw [String.toList_ofList, hderives.toList_text, hspells.filter_eq hderives.solid]
  · intro type h
    obtain ⟨tokens, hderives⟩ := h.derives
    exact (hgrammar type.text type).2 ⟨tokens, hderives, hderives.spells_text⟩

/-- A list with a mark, read with blanks of several kinds. -/
theorem parse_follows_grammar_users :
    let users : TypeRef := .nonNull (.list (.nonNull (.named "user_2")))
    parse "\t[ user_2\u2003! ]\u00a0!\n" = .ok users ∧ users.WellFormed ∧
      users.text = "[user_2!]!" ∧ parse "[user_2!]!" = .ok users := by
  intro users
  have hread : parse "\t[ user_2\u2003! ]\u00a0!\n" = .ok users := by cbv
  obtain ⟨hvalid, htext⟩ := parse_follows_grammar.2.1 _ _ hread
  have hprinted : users.text = "[user_2!]!" := by cbv
  refine ⟨hread, hvalid, hprinted, ?_⟩
  rw [← hprinted]
  exact parse_follows_grammar.2.2 users hvalid

/-- Brackets must match: the outer ones of `[a][b]` do not. -/
example : parse "[a][b]" = .error ⟨"[a][b]", .name .badPart⟩ := by cbv

end TypeRef

end GraphSchema
