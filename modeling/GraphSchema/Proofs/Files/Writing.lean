import Mathlib
import GraphSchema.Files.System
import GraphSchema.Results

/-!
# Files side by side

A file stays as it was written while directories are made and other files are written. Different
names in one directory are names of different files.
-/

namespace GraphSchema.Files

variable {α β ε : Type}

/-! ## Places of paths -/

/-- Following names from a place leads through directories. -/
inductive Follows (tree : FileTree) : List String → List String → List String → Prop where
  | here (place : List String) : Follows tree place [] place
  | stay {place names goal : List String} (enters : tree.find? place = some .directory)
      (rest : Follows tree place names goal) : Follows tree place ("." :: names) goal
  | back {place names goal : List String} (enters : tree.find? place = some .directory)
      (rest : Follows tree place.dropLast names goal) : Follows tree place (".." :: names) goal
  | down {place names goal : List String} {name : String}
      (enters : tree.find? place = some .directory) (proper : name ≠ "." ∧ name ≠ "..")
      (short : name.utf8ByteSize ≤ FileOp.maxName)
      (rest : Follows tree (place ++ [name]) names goal) : Follows tree place (name :: names) goal

/-- The path leads to the place, which need not hold anything. -/
structure Leads (tree : FileTree) (path : Path) (place : List String) : Prop where
  valid : (FileOp.checkPath path).run tree = (.ok (), tree)
  follows : Follows tree (if path.isAbsolute then [] else tree.working) path.names place

namespace FileOp

/-! ## Runs of operations -/

theorem run_bind (op : ExceptT ε (StateM FileTree) α) (next : α → ExceptT ε (StateM FileTree) β)
    (tree : FileTree) :
    (op >>= next).run tree = match op.run tree with
      | (.ok value, after) => (next value).run after
      | (.error e, after) => (.error e, after) := by
  change (StateT.bind op.run (ExceptT.bindCont next) : StateM FileTree _) tree = _
  unfold StateT.bind
  rcases op.run tree with ⟨e | value, after⟩ <;> rfl

theorem run_tryCatch (op : FileOp α) (handle : FileError → FileOp α) (tree : FileTree) :
    (tryCatch op handle : FileOp α).run tree = match op.run tree with
      | (.ok value, after) => (.ok value, after)
      | (.error e, after) => (handle e).run after := by
  rw [ExceptT.run_tryCatch]
  change (StateT.bind op.run _ : StateM FileTree _) tree = _
  unfold StateT.bind
  rcases op.run tree with ⟨e | value, after⟩ <;> rfl

theorem bind_eq_ok_iff {op : ExceptT ε (StateM FileTree) α}
    {next : α → ExceptT ε (StateM FileTree) β} {tree after : FileTree} {value : β} :
    (op >>= next).run tree = (.ok value, after) ↔
      ∃ x middle, op.run tree = (.ok x, middle) ∧ (next x).run middle = (.ok value, after) := by
  rw [run_bind]
  rcases op.run tree with ⟨e | x, middle⟩
  · refine iff_of_false (fun h => ?_) ?_
    · cases h
    · rintro ⟨x, other, h, -⟩
      cases h
  · constructor
    · exact fun h => ⟨x, middle, rfl, h⟩
    · rintro ⟨other, tree', h, hnext⟩
      cases h
      exact hnext

theorem exists_of_isOk {op : ExceptT ε (StateM FileTree) Unit} {tree : FileTree}
    (h : (op.run tree).1.isOk) : ∃ after, op.run tree = (.ok (), after) := by
  obtain ⟨⟨⟩, hok⟩ := isOk_iff.1 h
  exact ⟨_, Prod.ext hok rfl⟩

theorem adapt_eq_ok_iff {ε' : Type} {op : ExceptT ε (StateM FileTree) α} {f : ε → ε'}
    {tree after : FileTree} {value : α} :
    (op.adapt f).run tree = (.ok value, after) ↔ op.run tree = (.ok value, after) := by
  change (((op.run tree).1.mapError f, (op.run tree).2) : Except ε' α × FileTree) = _ ↔ _
  rcases op.run tree with ⟨e | result, middle⟩
  · refine iff_of_false (fun h => ?_) (fun h => ?_)
    · cases h
    · cases h
  · constructor
    · intro h
      cases h
      rfl
    · intro h
      cases h
      rfl

theorem run_get_bind (next : FileTree → FileOp β) (tree : FileTree) :
    (get >>= next).run tree = (next tree).run tree :=
  rfl

theorem enter_eq_ok_iff {place : List String} {tree after : FileTree} :
    (enter place).run tree = (.ok (), after) ↔
      tree.find? place = some .directory ∧ after = tree := by
  unfold enter
  rw [run_get_bind]
  cases tree.find? place with
  | none => exact iff_of_false nofun nofun
  | some entry =>
    cases entry with
    | file content => exact iff_of_false nofun nofun
    | directory =>
      constructor
      · intro h
        cases h
        exact ⟨rfl, rfl⟩
      · rintro ⟨-, rfl⟩
        rfl

theorem follow_eq_ok_iff {names place goal : List String} {tree after : FileTree} :
    (follow place names).run tree = (.ok goal, after) ↔
      Follows tree place names goal ∧ after = tree := by
  induction names generalizing place with
  | nil =>
    constructor
    · intro h
      cases h
      exact ⟨.here _, rfl⟩
    · rintro ⟨⟨⟩, rfl⟩
      rfl
  | cons name names ih =>
    unfold follow
    rw [bind_eq_ok_iff]
    constructor
    · rintro ⟨⟨⟩, middle, henter, h⟩
      obtain ⟨hdirectory, rfl⟩ := enter_eq_ok_iff.1 henter
      split_ifs at h with hstay hback hlong
      · obtain ⟨hrest, rfl⟩ := ih.1 h
        exact ⟨hstay ▸ .stay hdirectory hrest, rfl⟩
      · obtain ⟨hrest, rfl⟩ := ih.1 h
        exact ⟨hback ▸ .back hdirectory hrest, rfl⟩
      · cases h
      · obtain ⟨hrest, rfl⟩ := ih.1 h
        exact ⟨.down hdirectory ⟨hstay, hback⟩ (Nat.le_of_not_lt hlong) hrest, rfl⟩
    · rintro ⟨hfollows, rfl⟩
      cases hfollows with
      | stay enters rest =>
        refine ⟨(), after, enter_eq_ok_iff.2 ⟨enters, rfl⟩, ?_⟩
        rw [if_pos rfl]
        exact ih.2 ⟨rest, rfl⟩
      | back enters rest =>
        refine ⟨(), after, enter_eq_ok_iff.2 ⟨enters, rfl⟩, ?_⟩
        rw [if_neg (by decide), if_pos rfl]
        exact ih.2 ⟨rest, rfl⟩
      | down enters proper short rest =>
        refine ⟨(), after, enter_eq_ok_iff.2 ⟨enters, rfl⟩, ?_⟩
        rw [if_neg proper.1, if_neg proper.2, if_neg (Nat.not_lt.2 short)]
        exact ih.2 ⟨rest, rfl⟩

/-- Whether there can be a path does not depend on the tree. -/
theorem checkPath_uniform (path : Path) :
    ∃ answer, ∀ tree, (checkPath path).run tree = (answer, tree) := by
  unfold checkPath
  split_ifs <;> exact ⟨_, fun _ => rfl⟩

theorem locate_eq_ok_iff {path : Path} {place : List String} {tree after : FileTree} :
    (locate path).run tree = (.ok place, after) ↔ Leads tree path place ∧ after = tree := by
  obtain ⟨answer, hanswer⟩ := checkPath_uniform path
  unfold locate
  rw [bind_eq_ok_iff]
  constructor
  · rintro ⟨⟨⟩, middle, hcheck, h⟩
    obtain rfl : middle = tree := by
      rw [hanswer] at hcheck
      exact (Prod.mk.inj hcheck).2.symm
    obtain ⟨hfollows, rfl⟩ := follow_eq_ok_iff.1 h
    exact ⟨⟨hcheck, hfollows⟩, rfl⟩
  · rintro ⟨hleads, rfl⟩
    exact ⟨(), after, hleads.valid, follow_eq_ok_iff.2 ⟨hleads.follows, rfl⟩⟩

theorem locate_bind_eq_ok_iff {path : Path} {next : List String → FileOp β}
    {tree after : FileTree} {value : β} :
    (locate path >>= next).run tree = (.ok value, after) ↔
      ∃ place, Leads tree path place ∧ (next place).run tree = (.ok value, after) := by
  rw [bind_eq_ok_iff]
  constructor
  · rintro ⟨place, middle, hlocate, h⟩
    obtain ⟨hleads, rfl⟩ := locate_eq_ok_iff.1 hlocate
    exact ⟨place, hleads, h⟩
  · rintro ⟨place, hleads, h⟩
    exact ⟨place, tree, locate_eq_ok_iff.2 ⟨hleads, rfl⟩, h⟩

theorem entryAt_file_iff {path : Path} {content : String} {tree after : FileTree} :
    (entryAt path).run tree = (.ok (.file content), after) ↔
      (∃ place, Leads tree path place ∧ tree.find? place = some (.file content)) ∧
        path.namesDirectory = false ∧ after = tree := by
  unfold entryAt
  rw [locate_bind_eq_ok_iff]
  constructor
  · rintro ⟨place, hleads, h⟩
    rw [run_get_bind] at h
    split at h
    · cases h
    · rename_i found hfound
      split_ifs at h with hdirectory
      · cases h
      · cases h
        exact ⟨⟨place, hleads, hfound⟩, Bool.eq_false_iff.2 hdirectory, rfl⟩
    · cases h
  · rintro ⟨⟨place, hleads, hfound⟩, hdirectory, rfl⟩
    refine ⟨place, hleads, ?_⟩
    rw [run_get_bind, hfound]
    dsimp only
    rw [hdirectory]
    rfl

theorem read_eq_ok_iff {path : Path} {content : String} {tree after : FileTree} :
    (read path).run tree = (.ok content, after) ↔
      (∃ place, Leads tree path place ∧ tree.find? place = some (.file content)) ∧
        path.namesDirectory = false ∧ after = tree := by
  rw [← entryAt_file_iff, read, bind_eq_ok_iff]
  constructor
  · rintro ⟨entry, middle, hentry, h⟩
    cases entry with
    | file found => cases h; exact hentry
    | directory => cases h
  · exact fun h => ⟨.file content, after, h, rfl⟩

theorem write_eq_ok_iff {path : Path} {content : String} {tree after : FileTree} :
    (write path content).run tree = (.ok (), after) ↔
      ∃ place, Leads tree path place ∧ path.namesDirectory = false ∧
        tree.find? place ≠ some .directory ∧ after = tree.insert place (.file content) := by
  unfold write
  rw [locate_bind_eq_ok_iff]
  refine exists_congr fun place => and_congr_right fun hleads => ?_
  rw [run_get_bind, ← Bool.not_eq_true, ← and_assoc, ← not_or]
  split_ifs with h
  · refine iff_of_false (fun hfails => ?_) fun hfree => hfree.1 h
    cases hfails
  · rw [and_iff_right h]
    constructor
    · intro hwritten
      cases hwritten
      rfl
    · rintro rfl
      rfl

end FileOp

/-! ## Trees that grow -/

/-- The same directories are there, and perhaps more. -/
structure KeepsDirectories (before after : FileTree) : Prop where
  working : after.working = before.working
  directories : ∀ place, before.find? place = some .directory →
    after.find? place = some .directory

/-- Everything that was there is there as it was. -/
structure Grows (before after : FileTree) : Prop where
  working : after.working = before.working
  entries : ∀ place entry, before.find? place = some entry → after.find? place = some entry

namespace Grows

theorem refl (tree : FileTree) : Grows tree tree := ⟨rfl, fun _ _ h => h⟩

theorem trans {first second third : FileTree} (h : Grows first second) (h' : Grows second third) :
    Grows first third :=
  ⟨h'.working.trans h.working,
    fun place entry hentry => h'.entries place entry (h.entries place entry hentry)⟩

theorem keepsDirectories {before after : FileTree} (h : Grows before after) :
    KeepsDirectories before after :=
  ⟨h.working, fun place => h.entries place .directory⟩

end Grows

theorem find?_insert {tree : FileTree} {place : List String} (entry : Entry)
    (h : tree.find? place ≠ some .directory) (other : List String) :
    (tree.insert place entry).find? other =
      if other = place then some entry else tree.find? other := by
  have hplace : place.isPrefixOf tree.working = false := by
    rw [Bool.eq_false_iff]
    intro hprefix
    exact h (if_pos hprefix)
  unfold FileTree.find? FileTree.insert
  dsimp only
  split_ifs with hprefix heq heq
  · subst heq
    rw [hplace] at hprefix
    cases hprefix
  · rfl
  · subst heq
    exact OrderedMap.get?_insert_self ..
  · exact OrderedMap.get?_insert_of_ne _ heq entry

theorem Follows.mono {before after : FileTree} (h : KeepsDirectories before after)
    {place names goal : List String} (hfollows : Follows before place names goal) :
    Follows after place names goal := by
  induction hfollows with
  | here place => exact .here place
  | stay enters _ ih => exact .stay (h.directories _ enters) ih
  | back enters _ ih => exact .back (h.directories _ enters) ih
  | down enters proper short _ ih => exact .down (h.directories _ enters) proper short ih

theorem Leads.mono {before after : FileTree} (h : KeepsDirectories before after) {path : Path}
    {place : List String} (hleads : Leads before path place) : Leads after path place := by
  refine ⟨?_, ?_⟩
  · obtain ⟨answer, hanswer⟩ := FileOp.checkPath_uniform path
    have hvalid := hleads.valid
    rw [hanswer] at hvalid ⊢
    rw [(Prod.mk.inj hvalid).1]
  · rw [h.working]
    exact hleads.follows.mono h

theorem grows_insert {tree : FileTree} {place : List String} (entry : Entry)
    (h : tree.find? place = none) : Grows tree (tree.insert place entry) := by
  refine ⟨rfl, fun other found hfound => ?_⟩
  rw [find?_insert entry (by simp [h]), if_neg]
  · exact hfound
  · rintro rfl
    rw [h] at hfound
    cases hfound

namespace FileOp

/-- However it ends, the operation leaves everything as it was. -/
def Adds (op : FileOp α) : Prop := ∀ tree, Grows tree (op.run tree).2

theorem adds_pure (value : α) : Adds (pure value : FileOp α) := fun tree => .refl tree

theorem adds_throw (e : FileError) : Adds (throw e : FileOp α) := fun tree => .refl tree

theorem adds_get : Adds (get : FileOp FileTree) := fun tree => .refl tree

theorem adds_bind {op : FileOp α} {next : α → FileOp β} (h : Adds op)
    (hnext : ∀ value, Adds (next value)) : Adds (op >>= next) := by
  intro tree
  have hop := h tree
  rw [run_bind]
  generalize op.run tree = result at hop ⊢
  obtain ⟨e | value, middle⟩ := result
  · exact hop
  · exact hop.trans (hnext value middle)

theorem adds_tryCatch {op : FileOp α} {handle : FileError → FileOp α} (h : Adds op)
    (hhandle : ∀ e, Adds (handle e)) : Adds (tryCatch op handle) := by
  intro tree
  have hop := h tree
  rw [run_tryCatch]
  generalize op.run tree = result at hop ⊢
  obtain ⟨e | value, middle⟩ := result
  · exact hop.trans (hhandle e middle)
  · exact hop

theorem adds_checkPath (path : Path) : Adds (checkPath path) := by
  obtain ⟨answer, hanswer⟩ := checkPath_uniform path
  intro tree
  rw [hanswer]
  exact .refl tree

theorem adds_enter (place : List String) : Adds (enter place) := by
  refine adds_bind adds_get fun tree => ?_
  split
  · exact adds_pure ()
  · exact adds_throw _
  · exact adds_throw _

theorem adds_follow (place names : List String) : Adds (follow place names) := by
  induction names generalizing place with
  | nil => exact adds_pure place
  | cons name names ih =>
    refine adds_bind (adds_enter place) fun _ => ?_
    split_ifs
    · exact ih place
    · exact ih place.dropLast
    · exact adds_bind (adds_throw _) fun _ => ih _
    · exact ih (place ++ [name])

theorem adds_locate (path : Path) : Adds (locate path) :=
  adds_bind (adds_checkPath path) fun _ => adds_bind adds_get fun _ => adds_follow _ _

theorem adds_entryAt (path : Path) : Adds (entryAt path) := by
  refine adds_bind (adds_locate path) fun place => adds_bind adds_get fun tree => ?_
  split
  · exact adds_pure _
  · split_ifs
    · exact adds_bind (adds_throw _) fun _ => adds_pure _
    · exact adds_pure _
  · exact adds_throw _

/-- A directory is made only where there is nothing. -/
theorem adds_makeDirectory (path : Path) : Adds (makeDirectory path) := by
  intro tree
  have hlocate := adds_locate path tree
  unfold makeDirectory
  rw [run_bind]
  rcases hresult : (locate path).run tree with ⟨e | place, middle⟩
  · rw [hresult] at hlocate
    exact hlocate
  · obtain ⟨-, rfl⟩ := locate_eq_ok_iff.1 hresult
    dsimp only
    rw [run_get_bind]
    split_ifs with hfound
    · exact .refl middle
    · exact grows_insert .directory (Option.not_isSome_iff_eq_none.1 hfound)

theorem adds_ensureDirectory (path : Path) : Adds (ensureDirectory path) := by
  refine adds_tryCatch (adds_makeDirectory path) fun e => ?_
  refine adds_bind (adds_entryAt path) fun found => ?_
  split_ifs
  · exact adds_pure ()
  · exact adds_throw e

theorem adds_makeTrail (paths : List Path) : Adds (makeTrail paths) := by
  induction paths with
  | nil => exact adds_pure ()
  | cons path outer ih =>
    refine adds_tryCatch (adds_ensureDirectory path) fun e => ?_
    split_ifs
    · exact adds_bind (adds_throw e) fun _ => adds_bind ih fun _ => adds_ensureDirectory path
    · exact adds_bind ih fun _ => adds_ensureDirectory path

/-- Making directories leaves everything that is there. -/
theorem adds_makeDirectories (path : Path) : Adds (makeDirectories path) := by
  unfold makeDirectories
  split_ifs
  · exact adds_pure ()
  · exact adds_makeTrail _

end FileOp

/-! ## Files -/

/-- The path leads to a file with the content. -/
def Holds (tree : FileTree) (path : Path) (content : String) : Prop :=
  (FileOp.read path).run tree = (.ok content, tree)

theorem Holds.grow {before after : FileTree} (h : Grows before after) {path : Path}
    {content : String} (hholds : Holds before path content) : Holds after path content := by
  obtain ⟨⟨place, hleads, hfound⟩, hfile, -⟩ := FileOp.read_eq_ok_iff.1 hholds
  exact FileOp.read_eq_ok_iff.2
    ⟨⟨place, hleads.mono h.keepsDirectories, h.entries place _ hfound⟩, hfile, rfl⟩

theorem keepsDirectories_of_write {path : Path} {content : String} {before after : FileTree}
    (h : (FileOp.write path content).run before = (.ok (), after)) :
    KeepsDirectories before after := by
  obtain ⟨place, -, -, hfree, rfl⟩ := FileOp.write_eq_ok_iff.1 h
  refine ⟨rfl, fun other hother => ?_⟩
  rw [find?_insert _ hfree, if_neg]
  · exact hother
  · rintro rfl
    exact hfree hother

/-- A file that was written holds what was written. -/
theorem holds_of_write {path : Path} {content : String} {before after : FileTree}
    (h : (FileOp.write path content).run before = (.ok (), after)) : Holds after path content := by
  have hkeeps := keepsDirectories_of_write h
  obtain ⟨place, hleads, hfile, hfree, rfl⟩ := FileOp.write_eq_ok_iff.1 h
  refine FileOp.read_eq_ok_iff.2 ⟨⟨place, hleads.mono hkeeps, ?_⟩, hfile, rfl⟩
  rw [find?_insert _ hfree, if_pos rfl]

/-- Paths that never lead to one place. -/
def Apart (path other : Path) : Prop :=
  ∀ tree place, Leads tree path place → ¬ Leads tree other place

/-- A file stays as it is while another one is written. -/
theorem Holds.write {path other : Path} {content written : String} {before after : FileTree}
    (hholds : Holds before path content) (hapart : Apart path other)
    (h : (FileOp.write other written).run before = (.ok (), after)) : Holds after path content := by
  have hkeeps := keepsDirectories_of_write h
  obtain ⟨place, hleads, hfound⟩ := (FileOp.read_eq_ok_iff.1 hholds).1
  obtain ⟨target, htarget, -, hfree, rfl⟩ := FileOp.write_eq_ok_iff.1 h
  refine FileOp.read_eq_ok_iff.2
    ⟨⟨place, hleads.mono hkeeps, ?_⟩, (FileOp.read_eq_ok_iff.1 hholds).2.1, rfl⟩
  rw [find?_insert _ hfree, if_neg]
  · exact hfound
  · rintro rfl
    exact hapart before place hleads htarget

/-! ## Names in a directory -/

/-- A name that stays in its directory. -/
structure Plain (name : String) : Prop where
  nonempty : name ≠ ""
  proper : name ≠ "." ∧ name ≠ ".."
  single : '/' ∉ name.toList

namespace Path

theorem names_of_plain {name : String} (h : Plain name) : (⟨name⟩ : Path).names = [name] := by
  unfold names parts
  rw [Text.split_of_not_mem h.single, List.map_singleton, String.ofList_toList]
  exact List.filter_cons_of_pos (by simpa using h.nonempty)

theorem names_append (path : String) {name : String} (h : Plain name) :
    (⟨path ++ "/" ++ name⟩ : Path).names = (⟨path⟩ : Path).names ++ [name] := by
  have hparts : (⟨path ++ "/" ++ name⟩ : Path).parts = (⟨path⟩ : Path).parts ++ [name] := by
    unfold parts
    dsimp only
    rw [String.toList_append, String.toList_append, List.append_assoc,
      show "/".toList = ['/'] from rfl, List.singleton_append, Text.split_append,
      Text.split_of_not_mem h.single, List.map_append, List.map_singleton, String.ofList_toList]
  unfold names
  rw [hparts, List.filter_append]
  congr 1
  exact List.filter_cons_of_pos (by simpa using h.nonempty)

theorem names_join (directory : Path) {name : String} (h : Plain name) :
    ∃ front, (directory.join ⟨name⟩).names = front ++ [name] := by
  unfold join
  split_ifs with habsolute hslash
  · exact ⟨[], names_of_plain h⟩
  · obtain ⟨outer, houter⟩ := List.getLast?_eq_some_iff.1 (beq_iff_eq.1 hslash)
    have htext : directory.text = String.ofList outer ++ "/" := by
      rw [← String.toList_inj, houter, String.toList_append, String.toList_ofList]
      rfl
    rw [htext]
    exact ⟨_, names_append _ h⟩
  · exact ⟨_, names_append directory.text h⟩

end Path

theorem Follows.ends {tree : FileTree} {place front goal : List String} {name : String}
    (h : Follows tree place (front ++ [name]) goal) (hproper : name ≠ "." ∧ name ≠ "..") :
    ∃ outer, goal = outer ++ [name] := by
  induction front generalizing place with
  | nil =>
    cases h with
    | stay | back => simp at hproper
    | down _ _ _ rest => cases rest; exact ⟨_, rfl⟩
  | cons first front ih =>
    cases h with
    | stay _ rest => exact ih rest
    | back _ rest => exact ih rest
    | down _ _ _ rest => exact ih rest

/-- In one directory, different names are names of different files. -/
theorem apart_join (directory : Path) {name other : String} (h : Plain name) (h' : Plain other)
    (hne : name ≠ other) : Apart (directory.join ⟨name⟩) (directory.join ⟨other⟩) := by
  intro tree place hleads hleads'
  obtain ⟨front, hnames⟩ := directory.names_join h
  obtain ⟨front', hnames'⟩ := directory.names_join h'
  have hfollows := hleads.follows
  have hfollows' := hleads'.follows
  rw [hnames] at hfollows
  rw [hnames'] at hfollows'
  obtain ⟨outer, rfl⟩ := hfollows.ends h.proper
  obtain ⟨outer', heq⟩ := hfollows'.ends h'.proper
  exact hne (List.singleton_injective (List.append_inj_right' heq rfl))

/-! ## Several files -/

/-- Files were written into the directory one after the other, and directories made in between. -/
inductive Wrote (directory : Path) : FileTree → List (String × String) → FileTree → Prop where
  | done {before after : FileTree} (grows : Grows before after) : Wrote directory before [] after
  | file {before grown middle after : FileTree} {name content : String}
      {rest : List (String × String)} (grows : Grows before grown)
      (writes : (FileOp.write (directory.join ⟨name⟩) content).run grown = (.ok (), middle))
      (later : Wrote directory middle rest after) :
    Wrote directory before ((name, content) :: rest) after

theorem Wrote.of_grows {directory : Path} {before grown after : FileTree}
    {files : List (String × String)} (h : Wrote directory grown files after)
    (hgrows : Grows before grown) : Wrote directory before files after := by
  cases h with
  | done grows => exact .done (hgrows.trans grows)
  | file grows writes later => exact .file (hgrows.trans grows) writes later

/-- A file of another name stays as it is while files are written beside it. -/
theorem Wrote.keeps {directory : Path} {before after : FileTree} {files : List (String × String)}
    (h : Wrote directory before files after) (hplain : ∀ file ∈ files, Plain file.1)
    {name content : String} (hname : Plain name) (hother : name ∉ files.map Prod.fst)
    (hholds : Holds before (directory.join ⟨name⟩) content) :
    Holds after (directory.join ⟨name⟩) content := by
  induction h with
  | done grows => exact hholds.grow grows
  | file grows writes _ ih =>
    rw [List.forall_mem_cons] at hplain
    rw [List.map_cons, List.mem_cons, not_or] at hother
    exact ih hplain.2 hother.2
      ((hholds.grow grows).write (apart_join directory hname hplain.1 hother.1) writes)

/-- Files of different names all hold what was written. -/
theorem Wrote.holds {directory : Path} {before after : FileTree} {files : List (String × String)}
    (h : Wrote directory before files after) (hplain : ∀ file ∈ files, Plain file.1)
    (hnodup : (files.map Prod.fst).Nodup) :
    ∀ file ∈ files, Holds after (directory.join ⟨file.1⟩) file.2 := by
  induction h with
  | done => exact List.forall_mem_nil _
  | file _ writes later ih =>
    rw [List.forall_mem_cons] at hplain
    rw [List.map_cons, List.nodup_cons] at hnodup
    rw [List.forall_mem_cons]
    exact ⟨later.keeps hplain.2 hplain.1 hnodup.1 (holds_of_write writes), ih hplain.2 hnodup.2⟩

end GraphSchema.Files
