import Mathlib

/-!
# Results

A computation that may fail succeeds when all of its steps do.
-/

namespace GraphSchema

variable {ε δ α β : Type}

@[simp] theorem bind_eq_ok_iff {x : Except ε α} {next : α → Except ε β} {result : β} :
    (x >>= next) = .ok result ↔ ∃ value, x = .ok value ∧ next value = .ok result := by
  cases x <;> simp [bind, Except.bind]

theorem bind_eq_error_iff {x : Except ε α} {next : α → Except ε β} {e : ε} :
    (x >>= next) = .error e ↔ x = .error e ∨ ∃ value, x = .ok value ∧ next value = .error e := by
  cases x <;> simp [bind, Except.bind]

/-- Where the last step cannot fail, those before it did. -/
theorem error_of_bind_pure {x : Except ε α} {f : α → β} {e : ε}
    (h : (x >>= fun value => pure (f value)) = .error e) : x = .error e := by
  rcases bind_eq_error_iff.1 h with hx | ⟨_, -, hpure⟩
  · exact hx
  · cases hpure

/-- A step that only checks has nothing to hand on. -/
theorem bind_unit_eq_ok_iff {x : Except ε Unit} {next : Unit → Except ε β} {result : β} :
    (x >>= next) = .ok result ↔ x = .ok () ∧ next () = .ok result := by
  rw [bind_eq_ok_iff]
  exact ⟨fun ⟨_, hx, hnext⟩ => ⟨hx, hnext⟩, fun ⟨hx, hnext⟩ => ⟨(), hx, hnext⟩⟩

theorem forM_eq_ok_iff {f : α → Except ε Unit} {items : List α} :
    items.forM f = .ok () ↔ ∀ item ∈ items, f item = .ok () := by
  induction items with
  | nil => exact ⟨fun _ => nofun, fun _ => rfl⟩
  | cons item rest ih =>
    change (f item >>= fun _ => rest.forM f) = _ ↔ _
    rw [bind_unit_eq_ok_iff, ih, List.forall_mem_cons]

@[simp] theorem mapError_eq_ok_iff {x : Except ε α} {f : ε → δ} {result : α} :
    x.mapError f = .ok result ↔ x = .ok result := by
  cases x <;> simp [Except.mapError]

theorem isOk_iff {x : Except ε α} : x.isOk ↔ ∃ value, x = .ok value := by
  cases x <;> simp [Except.isOk, Except.toBool]

theorem toOption_map_eq_some_iff {x : Except ε α} {f : α → β} {result : β} :
    x.toOption.map f = some result ↔ ∃ value, x = .ok value ∧ f value = result := by
  cases x <;> simp [Except.toOption]

theorem isOk_bind {x : Except ε α} {next : α → Except ε β} (h : x.isOk)
    (hnext : ∀ value, (next value).isOk) : (x >>= next).isOk := by
  cases x with
  | error e => cases h
  | ok value => exact hnext value

@[simp] theorem isOk_map (x : Except ε α) (f : α → β) : (f <$> x).isOk = x.isOk := by
  cases x <;> rfl

theorem isOk_mapM (f : α → Except ε β) (items : List α) :
    (items.mapM f).isOk = items.all fun item => (f item).isOk := by
  induction items with
  | nil => rfl
  | cons item rest ih =>
    rw [List.mapM_cons, List.all_cons, ← ih]
    cases f item with
    | error e => rfl
    | ok value => cases rest.mapM f <;> rfl

theorem forall_ok_of_mapM {f : α → Except ε β} {items : List α} {results : List β}
    (h : items.mapM f = .ok results) : ∀ item ∈ items, ∃ result, f item = .ok result := by
  have hall : items.all fun item => (f item).isOk := by
    rw [← isOk_mapM, h]
    rfl
  rw [List.all_eq_true] at hall
  exact fun item hitem => isOk_iff.1 (hall item hitem)

theorem eq_map_of_mapM {f : α → Except ε β} {g : α → β} {items : List α} {results : List β}
    (h : items.mapM f = .ok results)
    (hfg : ∀ item ∈ items, ∀ result, f item = .ok result → result = g item) :
    results = items.map g := by
  induction items generalizing results with
  | nil => exact (Except.ok.inj h).symm
  | cons item rest ih =>
    rw [List.mapM_cons, bind_eq_ok_iff] at h
    obtain ⟨first, hfirst, h⟩ := h
    obtain ⟨others, hothers, hpure⟩ := bind_eq_ok_iff.1 h
    rw [← Except.ok.inj hpure, hfg item List.mem_cons_self first hfirst,
      ih hothers fun other hother => hfg other (List.mem_cons_of_mem item hother), List.map_cons]

theorem exists_of_mem_mapM {f : α → Except ε β} {items : List α} {results : List β}
    (h : items.mapM f = .ok results) {result : β} (hresult : result ∈ results) :
    ∃ item ∈ items, f item = .ok result := by
  induction items generalizing results with
  | nil => cases Except.ok.inj h ▸ hresult
  | cons item rest ih =>
    rw [List.mapM_cons, bind_eq_ok_iff] at h
    obtain ⟨first, hfirst, h⟩ := h
    obtain ⟨others, hothers, hpure⟩ := bind_eq_ok_iff.1 h
    rw [← Except.ok.inj hpure, List.mem_cons] at hresult
    rcases hresult with rfl | hresult
    · exact ⟨item, List.mem_cons_self, hfirst⟩
    · obtain ⟨other, hother, hok⟩ := ih hothers hresult
      exact ⟨other, List.mem_cons_of_mem item hother, hok⟩

theorem exists_error_of_mapM {f : α → Except ε β} {items : List α} {e : ε}
    (h : items.mapM f = .error e) : ∃ item ∈ items, f item = .error e := by
  induction items with
  | nil => cases h
  | cons item rest ih =>
    rw [List.mapM_cons, bind_eq_error_iff] at h
    rcases h with hfirst | ⟨_, -, hrest⟩
    · exact ⟨item, List.mem_cons_self, hfirst⟩
    · obtain ⟨other, hother, herror⟩ := ih (error_of_bind_pure hrest)
      exact ⟨other, List.mem_cons_of_mem item hother, herror⟩

theorem mapM_eq_ok_iff {f : α → Except ε β} {items : List α} {results : List β} :
    items.mapM f = .ok results ↔
      items.length = results.length ∧ ∀ pair ∈ items.zip results, f pair.1 = .ok pair.2 := by
  induction items generalizing results with
  | nil => cases results <;> simp [pure, Except.pure]
  | cons item rest ih =>
    rw [List.mapM_cons, bind_eq_ok_iff]
    cases results with
    | nil => simp [pure, Except.pure]
    | cons first others =>
      rw [List.zip_cons_cons, List.forall_mem_cons, List.length_cons, List.length_cons,
        Nat.add_right_cancel_iff, and_left_comm, ← ih]
      simp [pure, Except.pure]

/-- Results that the items have one by one make a list. -/
theorem exists_zip {P : α → β → Prop} {items : List α} (h : ∀ item ∈ items, ∃ result, P item result) :
    ∃ results, items.length = results.length ∧ ∀ pair ∈ items.zip results, P pair.1 pair.2 := by
  induction items with
  | nil => exact ⟨[], rfl, by simp⟩
  | cons item rest ih =>
    rw [List.forall_mem_cons] at h
    obtain ⟨first, hfirst⟩ := h.1
    obtain ⟨others, hlength, hothers⟩ := ih h.2
    refine ⟨first :: others, congrArg (· + 1) hlength, ?_⟩
    rw [List.zip_cons_cons, List.forall_mem_cons]
    exact ⟨hfirst, hothers⟩

/-! ## Step by step -/

/-- A relation of computations that holds if it holds of each two steps. -/
structure Stepwise (r : ∀ {α : Type}, Except ε α → Except ε α → Prop) : Prop where
  refl {α : Type} (x : Except ε α) : r x x
  bind {α β : Type} {x y : Except ε α} {next after : α → Except ε β} :
    r x y → (∀ value, r (next value) (after value)) → r (x >>= next) (y >>= after)

theorem Stepwise.mapM {r : ∀ {α : Type}, Except ε α → Except ε α → Prop} (hr : Stepwise r)
    {f g : α → Except ε β} {items : List α} (h : ∀ item ∈ items, r (f item) (g item)) :
    r (items.mapM f) (items.mapM g) := by
  induction items with
  | nil => exact hr.refl _
  | cons item rest ih =>
    rw [List.forall_mem_cons] at h
    rw [List.mapM_cons, List.mapM_cons]
    exact hr.bind h.1 fun _ => hr.bind (ih h.2) fun _ => hr.refl _

theorem stepwise_eq : Stepwise (fun {_} (x y : Except ε _) => x = y) where
  refl _ := rfl
  bind h hnext := by rw [h, funext hnext]

/-- The second computation has the results of the first. -/
def Keeps (x y : Except ε α) : Prop := ∀ result, x = .ok result → y = .ok result

theorem stepwise_keeps : Stepwise (fun {_} (x y : Except ε _) => Keeps x y) where
  refl _ _ h := h
  bind h hnext result hresult := by
    obtain ⟨value, hvalue, hrest⟩ := bind_eq_ok_iff.1 hresult
    exact bind_eq_ok_iff.2 ⟨value, h value hvalue, hnext value result hrest⟩

end GraphSchema
