import GraphSchema.Authoring.Decode
import GraphSchema.Proofs.Authoring.WellFormed
import GraphSchema.Proofs.TypeExpression

/-!
# Modules that were read

The type of an input field is read from a type expression before anything is checked, so it is
built from an identifier whatever else the document says. So of what is read, the check accepts the
well-formed modules and no others.
-/

namespace GraphSchema

theorem TypeRef.WellFormed.baseName {type : TypeRef} (h : type.WellFormed) :
    Name.isValid type.baseName := by
  induction type with
  | named name => exact h
  | list item ih => exact ih h
  | nonNull inner ih =>
    cases inner with
    | named | list => exact ih h
    | nonNull => exact h.elim

theorem OrderedMap.values_ofList_subset {α : Type} (entries : List (String × α)) :
    (OrderedMap.ofList entries).values ⊆ entries.map Prod.snd := by
  induction entries using List.reverseRecOn with
  | nil => exact List.Subset.refl _
  | append_singleton entries entry ih =>
    intro value hvalue
    unfold OrderedMap.ofList at hvalue
    rw [List.foldl_append] at hvalue
    rw [List.map_append, List.mem_append]
    rcases OrderedMap.mem_values_insert hvalue with rfl | hvalue
    · exact .inr List.mem_cons_self
    · exact .inl (ih hvalue)

namespace Authoring

open Name (IsIdentifier)

variable {α β : Type} {P : α → Prop}

/-! ## Slots -/

/-- Whatever is read has the property. -/
def Ensures (read : Reads α) (P : α → Prop) : Prop :=
  ∀ value result, read value = .ok result → P result

/-- Writing the key gives the property to any record. -/
def Slot.Gives (slot : Slot α) (P : α → Prop) : Prop :=
  ∀ value record result, slot.write value record = .ok result → P result

/-- Writing the key leaves a record its property. -/
def Slot.Keeps (slot : Slot α) (P : α → Prop) : Prop :=
  ∀ value record result, P record → slot.write value record = .ok result → P result

theorem Slot.Gives.keeps {slot : Slot α} (h : slot.Gives P) : slot.Keeps P :=
  fun value record result _ => h value record result

theorem slot_gives {key : String} {read : Reads β} {put : β → α → α} {trailing : Bool}
    {Q : β → Prop} (hread : Ensures read Q)
    (hput : ∀ value record, Q value → P (put value record)) :
    (slot key read put trailing).Gives P := by
  intro value record result h
  obtain ⟨found, hfound, hpure⟩ := bind_eq_ok_iff.1 h
  cases hpure
  exact hput found record (hread value found hfound)

theorem slot_keeps {key : String} {read : Reads β} {put : β → α → α} {trailing : Bool}
    (hput : ∀ value record, P record → P (put value record)) :
    (slot key read put trailing).Keeps P := by
  intro value record result hrecord h
  obtain ⟨found, -, hpure⟩ := bind_eq_ok_iff.1 h
  cases hpure
  exact hput found record hrecord

theorem Ensures.mapOf {read : Reads α} (h : Ensures read P) :
    Ensures (mapOf read) fun m => ∀ value ∈ m.values, P value := by
  intro value result hresult
  unfold Authoring.mapOf at hresult
  split at hresult
  · obtain ⟨entries, hentries, hpure⟩ := bind_eq_ok_iff.1 hresult
    cases hpure
    intro item hitem
    obtain ⟨entry, hentry, rfl⟩ := List.mem_map.1 (OrderedMap.values_ofList_subset entries hitem)
    obtain ⟨source, -, hsource⟩ := exists_of_mem_mapM hentries hentry
    obtain ⟨found, hfound, hpure⟩ := bind_eq_ok_iff.1 hsource
    cases hpure
    exact h source.2 found (mapError_eq_ok_iff.1 hfound)
  · cases hresult

/-! ## Records -/

namespace Record

variable {slots : List (Slot α)}

theorem writeEntry_keeps (hslots : ∀ slot ∈ slots, slot.Keeps P) {record result : α}
    {entry : String × Toml.Value} (hrecord : P record)
    (h : writeEntry slots record entry = .ok result) : P result := by
  unfold writeEntry at h
  split at h
  · rename_i slot hslot
    exact hslots slot (List.mem_of_find?_eq_some hslot) entry.2 record result hrecord
      (mapError_eq_ok_iff.1 h)
  · obtain ⟨_, -, hpure⟩ := bind_eq_ok_iff.1 h
    cases hpure
    exact hrecord

theorem writeEntries_keeps (hslots : ∀ slot ∈ slots, slot.Keeps P) {entries : Toml.Table}
    {record result : α} (hrecord : P record)
    (h : entries.foldlM (writeEntry slots) record = .ok result) : P result := by
  induction entries generalizing record with
  | nil => exact Except.ok.inj h ▸ hrecord
  | cons entry rest ih =>
    rw [List.foldlM_cons, bind_eq_ok_iff] at h
    obtain ⟨next, hnext, hrest⟩ := h
    exact ih (writeEntry_keeps hslots hrecord hnext) hrest

theorem writeItems_keeps (hslots : ∀ slot ∈ slots, slot.Keeps P) {items : List Toml.Value}
    {record result : α} (hrecord : P record) (h : writeItems slots items record = .ok result) :
    P result := by
  induction slots generalizing items record with
  | nil => exact Except.ok.inj h ▸ hrecord
  | cons slot rest ih =>
    rw [List.forall_mem_cons] at hslots
    cases items with
    | nil =>
      unfold writeItems at h
      split at h
      · exact ih hslots.2 hrecord h
      · cases h
    | cons item items =>
      obtain ⟨next, hnext, hrest⟩ := bind_eq_ok_iff.1 h
      exact ih hslots.2 (hslots.1 item record next hrecord hnext) hrest

/-- The entries were written, and the required key was among them. -/
theorem written_of_ofEntries {r : Record α} {entries : Toml.Table} {result : α}
    (h : r.ofEntries entries = .ok result) :
    entries.foldlM (writeEntry r.slots) r.blank = .ok result ∧
      ∀ key ∈ r.required, (Entries.get? key entries).isSome := by
  obtain ⟨record, hrecord, hrequired⟩ := bind_eq_ok_iff.1 h
  split at hrequired
  · rename_i key hkey
    split at hrequired
    · rename_i hsome
      cases hrequired
      refine ⟨hrecord, ?_⟩
      rw [hkey]
      rintro _ ⟨⟩
      exact hsome
    · cases hrequired
  · rename_i hnone
    cases hrequired
    exact ⟨hrecord, by simp [hnone]⟩

/-- A record is read from entries or from a list of values. -/
theorem ensures_read {r : Record α}
    (hentries : ∀ entries result, r.ofEntries entries = .ok result → P result)
    (hitems : ∀ items result, writeItems r.slots items r.blank = .ok result → P result) :
    Ensures r.read P := by
  have hlist : ∀ items span result, r.ofItems items span = .ok result → P result :=
    fun items _ result h => hitems items result (mapError_eq_ok_iff.1 h)
  intro value result h
  unfold read at h
  split at h
  · exact hentries _ result h
  · split at h
    · cases h
    · split at h
      · exact hlist _ _ result h
      · cases h
    · exact hlist _ _ result h
  · exact hentries _ result h
  · cases h

/-- The blank record has the property, and no key takes it away. -/
theorem ensures_of_blank {r : Record α} (hblank : P r.blank)
    (hslots : ∀ slot ∈ r.slots, slot.Keeps P) : Ensures r.read P :=
  ensures_read (fun _ _ h => writeEntries_keeps hslots hblank (written_of_ofEntries h).1)
    fun _ _ h => writeItems_keeps hslots hblank h

/-- The first key, which must be there, gives the property, and no other key takes it away. -/
theorem ensures_of_required {r : Record α} {first : Slot α} {rest : List (Slot α)}
    (hslots : r.slots = first :: rest) (hrequired : r.required = some first.key)
    (hfirst : first.Gives P) (htrailing : first.trailing = false)
    (hrest : ∀ slot ∈ rest, slot.Keeps P) : Ensures r.read P := by
  have hkeeps : ∀ slot ∈ r.slots, slot.Keeps P := by
    rw [hslots, List.forall_mem_cons]
    exact ⟨hfirst.keeps, hrest⟩
  refine ensures_read (fun entries result h => ?_) fun items result h => ?_
  · obtain ⟨hwritten, hkey⟩ := written_of_ofEntries h
    have hsome := hkey first.key hrequired
    -- From the entry of the key on, the record has the property.
    generalize r.blank = record at hwritten
    clear h hkey
    induction entries generalizing record with
    | nil => cases hsome
    | cons entry entries ih =>
      rw [List.foldlM_cons, bind_eq_ok_iff] at hwritten
      obtain ⟨next, hnext, hlater⟩ := hwritten
      by_cases heq : entry.1 = first.key
      · have hfound : r.slots.find? (·.key == entry.1) = some first := by
          rw [hslots, List.find?_cons_of_pos (by simp [heq])]
        unfold writeEntry at hnext
        rw [hfound] at hnext
        exact writeEntries_keeps hkeeps
          (hfirst entry.2 record next (mapError_eq_ok_iff.1 hnext)) hlater
      · rw [Entries.get?, if_neg heq] at hsome
        exact ih hsome next hlater
  · rw [hslots] at h
    cases items with
    | nil =>
      unfold writeItems at h
      rw [htrailing, if_neg Bool.false_ne_true] at h
      cases h
    | cons item items =>
      obtain ⟨next, hnext, hlater⟩ := bind_eq_ok_iff.1 h
      exact writeItems_keeps hrest (hfirst item r.blank next hnext) hlater

end Record

/-! ## Modules -/

theorem ensures_typeExpression : Ensures typeExpression fun type => Name.isValid type.baseName := by
  intro value type h
  cases value with
  | string text span =>
    have hparse := TypeRef.parse_eq_ok_iff.1 (mapError_eq_ok_iff.1 h)
    obtain ⟨tokens, hderives, -⟩ := TypeRef.derives_of_parseChars hparse
    exact hderives.wellFormed.baseName
  | scalar | array | table => cases h

theorem ensures_inputValue :
    Ensures inputValueRecord.read fun field => IsIdentifier field.type.baseName := by
  refine Record.ensures_of_required rfl rfl ?_ rfl ?_
  · exact slot_gives ensures_typeExpression fun _ _ h => Name.isValid_iff_isIdentifier.1 h
  · simp only [List.forall_mem_cons]
    exact ⟨slot_keeps fun _ _ h => h, slot_keeps fun _ _ h => h, List.forall_mem_nil _⟩

theorem ensures_input : Ensures inputRecord.read InputDecl.TypesNamed := by
  refine Record.ensures_of_blank (List.forall_mem_nil _) ?_
  simp only [inputRecord, List.forall_mem_cons]
  refine ⟨slot_keeps fun _ _ h => h, slot_keeps fun _ _ h => h, ?_, List.forall_mem_nil _⟩
  exact (slot_gives ensures_inputValue.mapOf fun _ _ h => h).keeps

/-- A module that was read has no other types in its inputs. -/
theorem inputTypesNamed_of_moduleOf {document : Toml.Table} {m : SchemaModule}
    (h : moduleOf document = .ok m) : m.InputTypesNamed := by
  have hslots : ∀ slot ∈ moduleRecord.slots, slot.Keeps SchemaModule.InputTypesNamed := by
    simp only [moduleRecord, List.forall_mem_cons]
    refine ⟨slot_keeps fun _ _ h => h, slot_keeps fun _ _ h => h, slot_keeps fun _ _ h => h,
      slot_keeps fun _ _ h => h, slot_keeps fun _ _ h => h, slot_keeps fun _ _ h => h, ?_,
      slot_keeps fun _ _ h => h, List.forall_mem_nil _⟩
    exact (slot_gives ensures_input.mapOf fun _ _ h => h).keeps
  have hblank : moduleRecord.blank.InputTypesNamed := List.forall_mem_nil _
  exact Record.writeEntries_keeps hslots hblank (Record.written_of_ofEntries h).1

/-- A text is read as a module if it is a document of that module and the module is well-formed. -/
theorem read_eq_ok_iff {source : String} {m : SchemaModule} :
    SchemaModule.read source = .ok m ↔
      ∃ document, Toml.read? source = some document ∧ moduleOf document = .ok m ∧
        m.WellFormed := by
  unfold SchemaModule.read
  cases Toml.read? source with
  | none => simp
  | some document =>
    dsimp only
    cases hmodule : moduleOf document with
    | error mismatch => simp [hmodule]
    | ok found =>
      change (checkModule _ found >>= fun _ => .ok found) = .ok m ↔ _
      rw [bind_unit_eq_ok_iff, accepts_iff_of_inputTypesNamed (inputTypesNamed_of_moduleOf hmodule)]
      constructor
      · rintro ⟨hwell, hsame⟩
        cases hsame
        exact ⟨document, rfl, hmodule, hwell⟩
      · rintro ⟨_, ⟨⟩, hfound, hwell⟩
        rw [hmodule] at hfound
        cases hfound
        exact ⟨hwell, rfl⟩

end Authoring

end GraphSchema
