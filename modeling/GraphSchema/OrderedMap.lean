/-!
# Ordered maps

A map that remembers the order in which its keys came. A key that is written again keeps its
place and gets the new value.
-/

namespace GraphSchema

/-! ## Lists of entries -/

namespace Entries

variable {κ α β : Type} [DecidableEq κ]

/-- Writes a value in place of the first entry of its key, or at the end. -/
def insert (key : κ) (value : α) : List (κ × α) → List (κ × α)
  | [] => [(key, value)]
  | entry :: rest =>
    if entry.1 = key then (key, value) :: rest else entry :: insert key value rest

/-- The entry for a key, if there is one. -/
def get? (key : κ) : List (κ × α) → Option α
  | [] => none
  | entry :: rest => if entry.1 = key then some entry.2 else get? key rest

/-- The entries in order, a repeated key keeping its first place and its last value. -/
def ofList (entries : List (κ × α)) : List (κ × α) :=
  entries.foldl (fun done entry => insert entry.1 entry.2 done) []

theorem keys_insert_of_mem {key : κ} {value : α} {entries : List (κ × α)}
    (h : key ∈ entries.map Prod.fst) :
    (insert key value entries).map Prod.fst = entries.map Prod.fst := by
  induction entries with
  | nil => simp at h
  | cons entry rest ih =>
    by_cases heq : entry.1 = key
    · simp [insert, heq]
    · have : key ∈ rest.map Prod.fst := by
        rcases List.mem_cons.1 h with h | h
        · exact absurd h.symm heq
        · exact h
      simp [insert, heq, ih this]

/-- A key that earlier entries do not have is written behind them. -/
theorem insert_append_of_not_mem {key : κ} {entries : List (κ × α)}
    (h : key ∉ entries.map Prod.fst) (value : α) (rest : List (κ × α)) :
    insert key value (entries ++ rest) = entries ++ insert key value rest := by
  induction entries with
  | nil => rfl
  | cons entry entries ih =>
    rw [List.map_cons, List.mem_cons, not_or] at h
    rw [List.cons_append, insert, if_neg (Ne.symm h.1), ih h.2, List.cons_append]

theorem mem_insert {key : κ} {value : α} {entries : List (κ × α)} {entry : κ × α}
    (h : entry ∈ insert key value entries) : entry = (key, value) ∨ entry ∈ entries := by
  induction entries with
  | nil => exact .inl (List.mem_singleton.1 h)
  | cons first rest ih =>
    unfold insert at h
    split at h
    · exact (List.mem_cons.1 h).imp_right (List.mem_cons_of_mem first)
    · rcases List.mem_cons.1 h with rfl | h
      · exact .inr List.mem_cons_self
      · exact (ih h).imp_right (List.mem_cons_of_mem first)

theorem keys_insert_of_not_mem {key : κ} {value : α} {entries : List (κ × α)}
    (h : key ∉ entries.map Prod.fst) :
    insert key value entries = entries ++ [(key, value)] := by
  simpa [insert] using insert_append_of_not_mem h value []

theorem nodup_keys_insert (key : κ) (value : α) {entries : List (κ × α)}
    (h : (entries.map Prod.fst).Nodup) : ((insert key value entries).map Prod.fst).Nodup := by
  by_cases hmem : key ∈ entries.map Prod.fst
  · rwa [keys_insert_of_mem hmem]
  · rw [keys_insert_of_not_mem hmem, List.map_append, List.nodup_append]
    refine ⟨h, by simp, ?_⟩
    intro a ha b hb
    simp only [List.map_cons, List.map_nil, List.mem_singleton] at hb
    exact fun e => hmem (hb ▸ e ▸ ha)

theorem get?_insert_self (key : κ) (value : α) (entries : List (κ × α)) :
    get? key (insert key value entries) = some value := by
  induction entries with
  | nil => simp [insert, get?]
  | cons entry rest ih =>
    by_cases h : entry.1 = key
    · simp [insert, h, get?]
    · simp [insert, h, get?, ih]

theorem get?_insert_of_ne {key other : κ} (h : other ≠ key) (value : α) (entries : List (κ × α)) :
    get? other (insert key value entries) = get? other entries := by
  induction entries with
  | nil => simp [insert, get?, h.symm]
  | cons entry rest ih =>
    by_cases heq : entry.1 = key
    · simp [insert, heq, get?, h.symm]
    · simp [insert, heq, get?, ih]

theorem get?_eq_none_iff {key : κ} {entries : List (κ × α)} :
    get? key entries = none ↔ key ∉ entries.map Prod.fst := by
  induction entries with
  | nil => simp [get?]
  | cons entry rest ih =>
    by_cases h : entry.1 = key
    · simp [get?, h]
    · simp only [get?, h, if_false, ih, List.map_cons, List.mem_cons, not_or]
      exact ⟨fun hr => ⟨fun e => h e.symm, hr⟩, fun hr => hr.2⟩

theorem mem_of_get? {key : κ} {value : α} {entries : List (κ × α)}
    (h : get? key entries = some value) : (key, value) ∈ entries := by
  induction entries with
  | nil => simp [get?] at h
  | cons entry rest ih =>
    by_cases heq : entry.1 = key
    · simp only [get?, heq, if_true, Option.some.injEq] at h
      exact List.mem_cons.2 (.inl (Prod.ext heq.symm h.symm))
    · simp only [get?, heq, if_false] at h
      exact List.mem_cons_of_mem _ (ih h)

theorem get?_of_mem {key : κ} {value : α} {entries : List (κ × α)}
    (hnodup : (entries.map Prod.fst).Nodup) (h : (key, value) ∈ entries) :
    get? key entries = some value := by
  induction entries with
  | nil => simp at h
  | cons entry rest ih =>
    rw [List.map_cons, List.nodup_cons] at hnodup
    rcases List.mem_cons.1 h with rfl | h
    · simp [get?]
    · have hne : entry.1 ≠ key := fun heq =>
        hnodup.1 (List.mem_map.2 ⟨(key, value), h, heq.symm⟩)
      rw [get?, if_neg hne]
      exact ih hnodup.2 h

theorem get?_map (f : κ → α → β) (key : κ) (entries : List (κ × α)) :
    get? key (entries.map fun entry => (entry.1, f entry.1 entry.2)) =
      (get? key entries).map (f key) := by
  induction entries with
  | nil => rfl
  | cons entry rest ih =>
    by_cases h : entry.1 = key
    · subst h; simp [get?]
    · simp [get?, h, ih]

theorem get?_append (key : κ) (entries rest : List (κ × α)) :
    get? key (entries ++ rest) = (get? key entries).or (get? key rest) := by
  induction entries with
  | nil => rfl
  | cons entry entries ih =>
    by_cases h : entry.1 = key
    · simp [get?, h]
    · simp [get?, h, ih]

theorem get?_filter_ne (key other : κ) (entries : List (κ × α)) :
    get? other (entries.filter fun entry => entry.1 ≠ key) =
      if other = key then none else get? other entries := by
  induction entries with
  | nil => simp [get?]
  | cons entry rest ih =>
    by_cases h : entry.1 = key
    · rw [List.filter_cons_of_neg (by simp [h]), ih]
      by_cases hother : other = key
      · rw [if_pos hother, if_pos hother]
      · rw [if_neg hother, if_neg hother, get?, if_neg fun e => hother (e.symm.trans h)]
    · rw [List.filter_cons_of_pos (by simp [h])]
      by_cases hother : entry.1 = other
      · rw [if_neg (hother ▸ h), get?, if_pos hother, get?, if_pos hother]
      · rw [get?, if_neg hother, ih, get?, if_neg hother]

end Entries

/-! ## Maps -/

/-- A map whose entries keep the order in which their keys came. -/
structure OrderedMap (κ α : Type) where
  entries : List (κ × α)
  nodup : (entries.map Prod.fst).Nodup

namespace OrderedMap

variable {κ α β : Type}

@[ext]
theorem ext {m n : OrderedMap κ α} (h : m.entries = n.entries) : m = n := by
  cases m; cases n; simp_all

def empty : OrderedMap κ α := ⟨[], by simp⟩

instance : Inhabited (OrderedMap κ α) := ⟨empty⟩

def keys (m : OrderedMap κ α) : List κ := m.entries.map Prod.fst

def values (m : OrderedMap κ α) : List α := m.entries.map Prod.snd

def size (m : OrderedMap κ α) : Nat := m.entries.length

def isEmpty (m : OrderedMap κ α) : Bool := m.entries.isEmpty

/-- Changes every value, with its key at hand. -/
def mapValues (m : OrderedMap κ α) (f : κ → α → β) : OrderedMap κ β :=
  ⟨m.entries.map fun entry => (entry.1, f entry.1 entry.2), by
    simpa [List.map_map, Function.comp_def] using m.nodup⟩

@[simp] theorem keys_mapValues (m : OrderedMap κ α) (f : κ → α → β) :
    (m.mapValues f).keys = m.keys := by
  simp [keys, mapValues, Function.comp_def]

/-- Every value stands under its own name. -/
def KeyedBy (m : OrderedMap κ α) (name : α → κ) : Prop :=
  ∀ entry ∈ m.entries, name entry.2 = entry.1

theorem KeyedBy.keys_eq {m : OrderedMap κ α} {name : α → κ} (h : m.KeyedBy name) :
    m.keys = m.values.map name := by
  rw [keys, values, List.map_map]
  exact List.map_congr_left fun entry hentry => (h entry hentry).symm

theorem KeyedBy.mapValues {m : OrderedMap κ α} {name : α → κ} (h : m.KeyedBy name)
    {f : κ → α → α} (hname : ∀ key value, name (f key value) = name value) :
    (m.mapValues f).KeyedBy name := by
  intro entry hentry
  obtain ⟨before, hbefore, rfl⟩ := List.mem_map.1 hentry
  rw [hname, h before hbefore]

/-- Every value stands under its own name, and no name comes twice. -/
structure IndexedBy (m : OrderedMap κ α) (name : α → κ) : Prop where
  keyed : m.KeyedBy name
  once : (m.values.map name).Nodup

theorem KeyedBy.indexedBy {m : OrderedMap κ α} {name : α → κ} (h : m.KeyedBy name) :
    m.IndexedBy name :=
  ⟨h, h.keys_eq ▸ m.nodup⟩

variable [DecidableEq κ]

instance (m : OrderedMap κ α) (name : α → κ) : Decidable (m.KeyedBy name) :=
  inferInstanceAs (Decidable (∀ entry ∈ m.entries, name entry.2 = entry.1))

def get? (m : OrderedMap κ α) (key : κ) : Option α := Entries.get? key m.entries

def contains (m : OrderedMap κ α) (key : κ) : Bool := (m.get? key).isSome

/-- Writes a value under a key: in place if the key is there, else at the end. -/
def insert (m : OrderedMap κ α) (key : κ) (value : α) : OrderedMap κ α :=
  ⟨Entries.insert key value m.entries, Entries.nodup_keys_insert key value m.nodup⟩

/-- Writes a value only under a key that is not there yet. -/
def insertNew (m : OrderedMap κ α) (key : κ) (value : α) : OrderedMap κ α :=
  if m.contains key then m else m.insert key value

/-- Drops the entry of a key; the others keep their order. -/
def erase (m : OrderedMap κ α) (key : κ) : OrderedMap κ α :=
  ⟨m.entries.filter fun entry => entry.1 ≠ key,
    m.nodup.sublist (List.filter_sublist.map Prod.fst)⟩

/-- Changes the value of one key, if it is there. -/
def modify (m : OrderedMap κ α) (key : κ) (f : α → α) : OrderedMap κ α :=
  m.mapValues fun k value => if k = key then f value else value

def ofList (entries : List (κ × α)) : OrderedMap κ α :=
  entries.foldl (fun m entry => m.insert entry.1 entry.2) empty

/-- Two maps are equal when they hold equal values under the same keys, in any order. -/
instance [BEq α] : BEq (OrderedMap κ α) where
  beq m n :=
    m.size == n.size &&
      m.entries.all fun entry =>
        match n.get? entry.1 with
        | some value => entry.2 == value
        | none => false

@[simp] theorem get?_insert_self (m : OrderedMap κ α) (key : κ) (value : α) :
    (m.insert key value).get? key = some value :=
  Entries.get?_insert_self key value m.entries

theorem get?_insert_of_ne (m : OrderedMap κ α) {key other : κ} (h : other ≠ key) (value : α) :
    (m.insert key value).get? other = m.get? other :=
  Entries.get?_insert_of_ne h value m.entries

theorem get?_erase (m : OrderedMap κ α) (key other : κ) :
    (m.erase key).get? other = if other = key then none else m.get? other :=
  Entries.get?_filter_ne key other m.entries

theorem get?_eq_none_iff {m : OrderedMap κ α} {key : κ} : m.get? key = none ↔ key ∉ m.keys :=
  Entries.get?_eq_none_iff

theorem contains_iff {m : OrderedMap κ α} {key : κ} : m.contains key = true ↔ key ∈ m.keys := by
  rw [contains, Option.isSome_iff_ne_none, ne_eq, get?_eq_none_iff, Decidable.not_not]

theorem get?_eq_some_iff {m : OrderedMap κ α} {key : κ} {value : α} :
    m.get? key = some value ↔ (key, value) ∈ m.entries :=
  ⟨Entries.mem_of_get?, Entries.get?_of_mem m.nodup⟩

theorem mem_values_iff {m : OrderedMap κ α} {value : α} :
    value ∈ m.values ↔ ∃ key, m.get? key = some value := by
  simp [values, get?_eq_some_iff]

theorem mem_keys_of_get? {m : OrderedMap κ α} {key : κ} {value : α} (h : m.get? key = some value) :
    key ∈ m.keys :=
  List.mem_map_of_mem (get?_eq_some_iff.1 h)

/-- Maps with the same keys in the same order and with the same values under them are equal. -/
theorem ext_get? {m n : OrderedMap κ α} (hkeys : m.keys = n.keys)
    (hget : ∀ key, m.get? key = n.get? key) : m = n := by
  have hlength : m.entries.length = n.entries.length := by
    simpa [keys] using congrArg List.length hkeys
  apply ext
  apply List.ext_getElem hlength
  intro i hm hn
  have hkey : m.entries[i].1 = n.entries[i].1 := by
    have hmi : i < m.keys.length := by simpa [keys] using hm
    have := List.getElem_of_eq hkeys hmi
    simpa [keys] using this
  have hleft : m.get? m.entries[i].1 = some m.entries[i].2 :=
    get?_eq_some_iff.2 (List.getElem_mem hm)
  have hright : n.get? n.entries[i].1 = some n.entries[i].2 :=
    get?_eq_some_iff.2 (List.getElem_mem hn)
  rw [hget, hkey, hright] at hleft
  exact Prod.ext hkey (Option.some.inj hleft).symm

/-- Maps with the same keys in the same order and with values that look the same under them. -/
theorem map_values_eq {m n : OrderedMap κ α} {f : α → β} (hkeys : m.keys = n.keys)
    (h : ∀ key value, n.get? key = some value →
      ∃ other, m.get? key = some other ∧ f other = f value) :
    m.values.map f = n.values.map f := by
  have hvalues : ∀ m : OrderedMap κ α,
      m.keys.map (fun key => (m.get? key).map f) = (m.values.map f).map some := by
    intro m
    rw [keys, values, List.map_map, List.map_map, List.map_map]
    refine List.map_congr_left fun entry hentry => ?_
    have hfound : m.get? entry.1 = some entry.2 := get?_eq_some_iff.2 hentry
    simp only [Function.comp_apply, hfound, Option.map_some]
  refine (List.map_inj_right fun _ _ => Option.some.inj).1 ?_
  rw [← hvalues, ← hvalues, hkeys]
  refine List.map_congr_left fun key hkey => ?_
  obtain ⟨value, hvalue⟩ := Option.isSome_iff_exists.1 (contains_iff.2 hkey)
  obtain ⟨other, hother, hsame⟩ := h key value hvalue
  rw [hother, hvalue, Option.map_some, Option.map_some, hsame]

/-! ## Changed values -/


@[simp] theorem get?_mapValues (m : OrderedMap κ α) (f : κ → α → β) (key : κ) :
    (m.mapValues f).get? key = (m.get? key).map (f key) :=
  Entries.get?_map f key m.entries

omit [DecidableEq κ] in
/-- A change of the values that no longer shows in what is made of them. -/
theorem mapValues_changed {m : OrderedMap κ α} {change : α → α} {f : κ → α → β}
    (h : ∀ value ∈ m.values, ∀ key, f key (change value) = f key value) :
    (m.mapValues fun _ value => change value).mapValues f = m.mapValues f := by
  refine ext (List.map_map.trans (List.map_congr_left fun entry hentry => ?_))
  exact congrArg (Prod.mk entry.1) (h entry.2 (List.mem_map_of_mem hentry) entry.1)

@[simp] theorem keys_modify (m : OrderedMap κ α) (key : κ) (f : α → α) :
    (m.modify key f).keys = m.keys :=
  keys_mapValues m _

@[simp] theorem get?_modify_self (m : OrderedMap κ α) (key : κ) (f : α → α) :
    (m.modify key f).get? key = (m.get? key).map f := by
  simp [modify]

theorem get?_modify_of_ne (m : OrderedMap κ α) {key other : κ} (h : other ≠ key) (f : α → α) :
    (m.modify key f).get? other = m.get? other := by
  simp [modify, h]

theorem modify_eq_self {m : OrderedMap κ α} {key : κ} {f : α → α}
    (h : ∀ value, m.get? key = some value → f value = value) : m.modify key f = m := by
  apply ext_get? (keys_modify m key f)
  intro other
  by_cases heq : other = key
  · subst heq
    rw [get?_modify_self]
    cases hvalue : m.get? other with
    | none => rfl
    | some value => rw [Option.map_some, h value hvalue]
  · exact get?_modify_of_ne m heq f

/-! ## Written entries -/

theorem keys_insert_of_mem {m : OrderedMap κ α} {key : κ} (h : key ∈ m.keys) (value : α) :
    (m.insert key value).keys = m.keys :=
  Entries.keys_insert_of_mem h

theorem entries_insert_of_not_mem {m : OrderedMap κ α} {key : κ} (h : key ∉ m.keys) (value : α) :
    (m.insert key value).entries = m.entries ++ [(key, value)] :=
  Entries.keys_insert_of_not_mem h

theorem insertNew_of_mem {m : OrderedMap κ α} {key : κ} (h : key ∈ m.keys) (value : α) :
    m.insertNew key value = m :=
  if_pos (contains_iff.2 h)

theorem entries_insertNew_of_not_mem {m : OrderedMap κ α} {key : κ} (h : key ∉ m.keys)
    (value : α) : (m.insertNew key value).entries = m.entries ++ [(key, value)] := by
  rw [insertNew, if_neg ((not_congr contains_iff).2 h), entries_insert_of_not_mem h]

/-- Writes entries one after the other. -/
def insertAll (m : OrderedMap κ α) (entries : List (κ × α)) : OrderedMap κ α :=
  entries.foldl (fun m entry => m.insert entry.1 entry.2) m

theorem insertAll_append (m : OrderedMap κ α) (entries rest : List (κ × α)) :
    m.insertAll (entries ++ rest) = (m.insertAll entries).insertAll rest :=
  List.foldl_append

/-- Entries of distinct new keys are written one behind the other. -/
theorem entries_insertAll_of_fresh {m : OrderedMap κ α} {entries : List (κ × α)}
    (hnodup : (entries.map Prod.fst).Nodup) (hfresh : ∀ key ∈ entries.map Prod.fst, key ∉ m.keys) :
    (m.insertAll entries).entries = m.entries ++ entries := by
  induction entries generalizing m with
  | nil => exact (List.append_nil _).symm
  | cons entry rest ih =>
    rw [List.map_cons, List.nodup_cons] at hnodup
    rw [List.map_cons, List.forall_mem_cons] at hfresh
    have hentries : (m.insert entry.1 entry.2).entries = m.entries ++ [entry] :=
      entries_insert_of_not_mem hfresh.1 entry.2
    have hcons : m.insertAll (entry :: rest) = (m.insert entry.1 entry.2).insertAll rest := rfl
    rw [hcons, ih hnodup.2, hentries, List.append_assoc, List.singleton_append]
    intro key hkey
    unfold keys
    rw [hentries, List.map_append, List.map_singleton, List.mem_append, List.mem_singleton, not_or]
    exact ⟨hfresh.2 key hkey, fun heq => hnodup.1 (heq ▸ hkey)⟩

theorem entries_ofList {entries : List (κ × α)} (hnodup : (entries.map Prod.fst).Nodup) :
    (ofList entries).entries = entries :=
  entries_insertAll_of_fresh (m := empty) hnodup fun _ _ => List.not_mem_nil

/-- The entries of a map, each changed, make the map with changed values. -/
theorem ofList_entries_map (m : OrderedMap κ α) (f : κ → α → β) :
    ofList (m.entries.map fun (key, value) => (key, f key value)) = m.mapValues f := by
  apply OrderedMap.ext
  rw [entries_ofList]
  · rfl
  · rw [List.map_map]
    exact m.nodup

/-- The last entry of a key counts. -/
theorem get?_insertAll (m : OrderedMap κ α) (entries : List (κ × α)) (key : κ) :
    (m.insertAll entries).get? key = (Entries.get? key entries.reverse).or (m.get? key) := by
  induction entries generalizing m with
  | nil => rfl
  | cons entry rest ih =>
    have hcons : m.insertAll (entry :: rest) = (m.insert entry.1 entry.2).insertAll rest := rfl
    rw [hcons, ih, List.reverse_cons, Entries.get?_append, Option.or_assoc]
    congr 1
    by_cases h : key = entry.1
    · subst h; simp [Entries.get?]
    · rw [get?_insert_of_ne m h]
      simp [Entries.get?, Ne.symm h]

theorem get?_insertAll_of_mem (m : OrderedMap κ α) {entries : List (κ × α)} {key : κ} {value : α}
    (hnodup : (entries.map Prod.fst).Nodup) (h : (key, value) ∈ entries) :
    (m.insertAll entries).get? key = some value := by
  have hreverse : (entries.reverse.map Prod.fst).Nodup := by
    rw [List.map_reverse]
    exact (List.reverse_perm _).nodup_iff.2 hnodup
  rw [get?_insertAll, Entries.get?_of_mem hreverse (List.mem_reverse.2 h), Option.some_or]

theorem get?_insertAll_of_not_mem (m : OrderedMap κ α) {entries : List (κ × α)} {key : κ}
    (h : key ∉ entries.map Prod.fst) : (m.insertAll entries).get? key = m.get? key := by
  have hnone : Entries.get? key entries.reverse = none := by
    rw [Entries.get?_eq_none_iff, List.map_reverse, List.mem_reverse]
    exact h
  rw [get?_insertAll, hnone, Option.none_or]

theorem keys_insertAll_of_subset {m : OrderedMap κ α} {entries : List (κ × α)}
    (h : entries.map Prod.fst ⊆ m.keys) : (m.insertAll entries).keys = m.keys := by
  induction entries generalizing m with
  | nil => rfl
  | cons entry rest ih =>
    rw [List.map_cons, List.cons_subset] at h
    have hkeys : (m.insert entry.1 entry.2).keys = m.keys := keys_insert_of_mem h.1 entry.2
    have hcons : m.insertAll (entry :: rest) = (m.insert entry.1 entry.2).insertAll rest := rfl
    rw [hcons, ih (hkeys ▸ h.2), hkeys]

theorem mem_keys_insertAll {m : OrderedMap κ α} {entries : List (κ × α)} {key : κ}
    (h : key ∈ entries.map Prod.fst) : key ∈ (m.insertAll entries).keys := by
  rw [← contains_iff, contains, get?_insertAll, Option.isSome_or, Bool.or_eq_true]
  left
  rw [Option.isSome_iff_ne_none, ne_eq, Entries.get?_eq_none_iff, Decidable.not_not]
  simpa using h

/-- Writing the same entries again changes nothing, not even the order. -/
theorem insertAll_insertAll (m : OrderedMap κ α) (entries : List (κ × α)) :
    (m.insertAll entries).insertAll entries = m.insertAll entries := by
  apply ext_get? (keys_insertAll_of_subset fun key => mem_keys_insertAll)
  intro key
  rw [get?_insertAll, get?_insertAll, ← Option.or_assoc, Option.or_self]

/-! ## Values under their own names -/

theorem KeyedBy.of_get? {m : OrderedMap κ α} {name : α → κ} (h : m.KeyedBy name) {key : κ}
    {value : α} (hget : m.get? key = some value) : name value = key :=
  h (key, value) (get?_eq_some_iff.1 hget)

theorem mem_values_insert {m : OrderedMap κ α} {key : κ} {value other : α}
    (h : other ∈ (m.insert key value).values) : other = value ∨ other ∈ m.values := by
  obtain ⟨entry, hentry, rfl⟩ := List.mem_map.1 h
  rcases Entries.mem_insert hentry with rfl | hentry
  · exact .inl rfl
  · exact .inr (List.mem_map_of_mem hentry)

theorem KeyedBy.insert {m : OrderedMap κ α} {name : α → κ} (h : m.KeyedBy name) {key : κ}
    {value : α} (hname : name value = key) : (m.insert key value).KeyedBy name := by
  intro entry hentry
  rcases Entries.mem_insert hentry with rfl | hentry
  · exact hname
  · exact h entry hentry

theorem KeyedBy.insertNew {m : OrderedMap κ α} {name : α → κ} (h : m.KeyedBy name) (value : α) :
    (m.insertNew (name value) value).KeyedBy name := by
  unfold OrderedMap.insertNew
  split
  · exact h
  · exact h.insert rfl

end OrderedMap

end GraphSchema
