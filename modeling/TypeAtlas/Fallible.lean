/-!
# Results that may be errors

When a sequence of steps succeeds, each of its steps does. When values are gone through one after
the other, the first that fails decides (`FirstFailure`):

* `mapM_eq_error_iff`: a row of values cannot be mapped because of its first failure;
* `foldlM_eq_error_iff`: a fold fails with the first failure of its values, if every value fails by
  itself, whatever came before;
* `foldlM_eq_ok_iff`: it succeeds if no value fails, with what the steps give;
* `foldlM_congr_map`: it depends on what its steps look at.
-/

namespace TypeAtlas

section

variable {ε α β : Type}

theorem bind_eq_ok {x : Except ε α} {f : α → Except ε β} {b : β} :
    (x >>= f) = .ok b ↔ ∃ a, x = .ok a ∧ f a = .ok b := by
  cases x with
  | error e => simp [bind, Except.bind]
  | ok a => simp [bind, Except.bind]

theorem bind_eq_error {x : Except ε α} {f : α → Except ε β} {e : ε} :
    (x >>= f) = .error e ↔ x = .error e ∨ ∃ a, x = .ok a ∧ f a = .error e := by
  cases x with
  | error e' => simp [bind, Except.bind]
  | ok a => simp [bind, Except.bind]

theorem mapError_eq_ok {ε' : Type} {x : Except ε α} {f : ε → ε'} {a : α} :
    x.mapError f = .ok a ↔ x = .ok a := by
  cases x with
  | error e =>
    show Except.error (f e) = .ok a ↔ _
    simp
  | ok b =>
    show Except.ok b = .ok a ↔ _
    simp

theorem mapError_eq_error {ε' : Type} {x : Except ε α} {f : ε → ε'} {e : ε'} :
    x.mapError f = .error e ↔ ∃ e', x = .error e' ∧ f e' = e := by
  cases x with
  | error e' =>
    show Except.error (f e') = .error e ↔ _
    simp
  | ok a =>
    show Except.ok a = .error e ↔ _
    simp

/-- Values that can all be mapped give the row of what they are mapped to. -/
theorem mapM_eq_ok_map {f : α → Except ε β} {g : α → β} {l : List α} (h : ∀ a ∈ l, f a = .ok (g a)) :
    l.mapM f = .ok (l.map g) := by
  induction l with
  | nil => rfl
  | cons a l ih =>
    rw [List.forall_mem_cons] at h
    rw [List.mapM_cons, h.1, ih h.2]
    rfl

/-- If each of two results exists where the other does, either both are errors or both exist. -/
theorem both_error_or_both_ok {x : Except ε α} {y : Except ε β} {R : α → β → Prop}
    (h : ∀ a, x = .ok a → ∃ b, y = .ok b ∧ R a b) (h' : ∀ b, y = .ok b → ∃ a, x = .ok a) :
    (∃ e e', x = .error e ∧ y = .error e') ∨ ∃ a b, x = .ok a ∧ y = .ok b ∧ R a b := by
  cases x with
  | ok a =>
    obtain ⟨b, hb, hR⟩ := h a rfl
    exact .inr ⟨a, b, rfl, hb, hR⟩
  | error e =>
    cases y with
    | ok b =>
      obtain ⟨a, ha⟩ := h' b rfl
      cases ha
    | error e' => exact .inl ⟨e, e', rfl, rfl⟩

/-- A result is no error if it is not the error of anything. -/
theorem exists_eq_ok_iff {x : Except ε α} : (∃ a, x = .ok a) ↔ ∀ e, x ≠ .error e := by
  cases x <;> simp

theorem toOption_map_eq_some_iff {x : Except ε α} {f : α → β} {b : β} :
    x.toOption.map f = some b ↔ ∃ a, x = .ok a ∧ f a = b := by
  cases x <;> simp [Except.toOption]

theorem exists_eq_error_iff {x : Except ε α} : (∃ e, x = .error e) ↔ ∀ a, x ≠ .ok a := by
  cases x <;> simp

end

section

variable {α ε : Type}

/-- The failure of the first value in a row that has one. -/
def FirstFailure (fails : α → ε → Prop) (l : List α) (e : ε) : Prop :=
  ∃ before a after, l = before ++ a :: after ∧ (∀ b ∈ before, ∀ e', ¬fails b e') ∧ fails a e

theorem not_firstFailure_nil {fails : α → ε → Prop} {e : ε} : ¬FirstFailure fails [] e := by
  rintro ⟨before, a, after, h, -⟩
  simp at h

theorem firstFailure_cons {fails : α → ε → Prop} {a : α} {l : List α} {e : ε} :
    FirstFailure fails (a :: l) e ↔
      fails a e ∨ (∀ e', ¬fails a e') ∧ FirstFailure fails l e := by
  constructor
  · rintro ⟨before, b, after, h, hbefore, hb⟩
    cases before with
    | nil =>
      obtain ⟨rfl, rfl⟩ : a = b ∧ l = after := by simpa using h
      exact .inl hb
    | cons c before =>
      obtain ⟨rfl, rfl⟩ : a = c ∧ l = before ++ b :: after := by simpa using h
      exact .inr ⟨hbefore a List.mem_cons_self,
        before, b, after, rfl, fun x hx => hbefore x (List.mem_cons_of_mem _ hx), hb⟩
  · intro h
    rcases h with h | ⟨ha, before, b, after, rfl, hbefore, hb⟩
    · exact ⟨[], a, l, rfl, by simp, h⟩
    · refine ⟨a :: before, b, after, rfl, fun x hx => ?_, hb⟩
      rcases List.mem_cons.mp hx with rfl | hx
      · exact ha
      · exact hbefore x hx

/-- There is a first failure unless there is no failure at all. -/
theorem forall_not_firstFailure_iff {fails : α → ε → Prop} {l : List α} :
    (∀ e, ¬FirstFailure fails l e) ↔ ∀ a ∈ l, ∀ e, ¬fails a e := by
  induction l with
  | nil => simp [not_firstFailure_nil]
  | cons a l ih =>
    simp only [firstFailure_cons, List.forall_mem_cons, ← ih, not_or, not_and]
    exact ⟨fun h => ⟨fun e => (h e).1, fun e => (h e).2 fun e' => (h e').1⟩,
      fun h e => ⟨h.1 e, fun _ => h.2 e⟩⟩

theorem exists_firstFailure_iff {fails : α → ε → Prop} {l : List α} :
    (∃ e, FirstFailure fails l e) ↔ ∃ a ∈ l, ∃ e, fails a e := by
  have h := not_congr (@forall_not_firstFailure_iff α ε fails l)
  simpa only [Classical.not_forall, Classical.not_not, exists_prop] using h

/-- Values without a counterpart do not fail. -/
theorem firstFailure_filterMap {β : Type} {fails : β → ε → Prop} (f : α → Option β) {l : List α}
    {e : ε} : FirstFailure fails (l.filterMap f) e ↔
      FirstFailure (fun a e => ∃ b, f a = some b ∧ fails b e) l e := by
  induction l with
  | nil => exact iff_of_false not_firstFailure_nil not_firstFailure_nil
  | cons a l ih =>
    rw [List.filterMap_cons, firstFailure_cons]
    cases h : f a with
    | none => simp [ih]
    | some b => simp [firstFailure_cons, ih]

theorem firstFailure_map {β : Type} {fails : β → ε → Prop} (f : α → β) {l : List α} {e : ε} :
    FirstFailure fails (l.map f) e ↔ FirstFailure (fun a => fails (f a)) l e := by
  rw [← List.filterMap_eq_map, firstFailure_filterMap]
  simp

/-- Failures told in other words come in the same order. -/
theorem firstFailure_exists {ε' : Type} {fails : α → ε → Prop} (f : ε → ε') {l : List α} {e : ε'} :
    FirstFailure (fun a e' => ∃ e, fails a e ∧ f e = e') l e ↔
      ∃ e', FirstFailure fails l e' ∧ f e' = e := by
  constructor
  · rintro ⟨before, a, after, rfl, hbefore, e', ha, rfl⟩
    exact ⟨e', ⟨before, a, after, rfl, fun b hb x hx => hbefore b hb _ ⟨x, hx, rfl⟩, ha⟩, rfl⟩
  · rintro ⟨e', ⟨before, a, after, rfl, hbefore, ha⟩, rfl⟩
    exact ⟨before, a, after, rfl, fun b hb _ ⟨x, hx, _⟩ => hbefore b hb x hx, e', ha, rfl⟩

/-- A row of results fails with the first of them that does. -/
theorem mapM_eq_error_iff {β : Type} {f : α → Except ε β} {l : List α} {e : ε} :
    l.mapM f = .error e ↔ FirstFailure (fun a e => f a = .error e) l e := by
  induction l with
  | nil => exact iff_of_false (by simp [pure, Except.pure]) not_firstFailure_nil
  | cons a l ih =>
    rw [List.mapM_cons, bind_eq_error, firstFailure_cons, ← ih]
    refine or_congr Iff.rfl ?_
    rw [← exists_eq_ok_iff, exists_and_right.symm]
    refine exists_congr fun b => and_congr Iff.rfl ?_
    simp [bind_eq_error, pure, Except.pure]

end

section

variable {α ε σ : Type} {f : σ → α → Except ε σ}

theorem foldlM_eq_error_iff {fails : α → ε → Prop} (h : ∀ s a e, f s a = .error e ↔ fails a e)
    (l : List α) (s : σ) (e : ε) : l.foldlM f s = .error e ↔ FirstFailure fails l e := by
  induction l generalizing s with
  | nil => exact iff_of_false (by simp [pure, Except.pure]) not_firstFailure_nil
  | cons a l ih =>
    rw [List.foldlM_cons, bind_eq_error, firstFailure_cons, h]
    refine or_congr Iff.rfl ?_
    have hok : (∃ t, f s a = .ok t) ↔ ∀ e', ¬fails a e' := by
      simp only [exists_eq_ok_iff, ne_eq, h]
    rw [← hok, exists_and_right.symm]
    exact exists_congr fun t => and_congr Iff.rfl (ih t)

theorem foldlM_eq_ok_iff {value : σ → α → σ} (h : ∀ s a t, f s a = .ok t → t = value s a)
    {fails : α → ε → Prop} (hf : ∀ s a e, f s a = .error e ↔ fails a e) (l : List α) (s t : σ) :
    l.foldlM f s = .ok t ↔ (∀ a ∈ l, ∀ e, ¬fails a e) ∧ t = l.foldl value s := by
  induction l generalizing s with
  | nil => simp [pure, Except.pure, eq_comm]
  | cons a l ih =>
    have hok : (∃ t, f s a = .ok t) ↔ ∀ e, ¬fails a e := by
      simp only [exists_eq_ok_iff, ne_eq, hf]
    rw [List.foldlM_cons, bind_eq_ok, List.foldl_cons, List.forall_mem_cons, ← hok, and_assoc]
    constructor
    · rintro ⟨u, hu, ht⟩
      exact ⟨⟨u, hu⟩, h s a u hu ▸ (ih u).mp ht⟩
    · rintro ⟨⟨u, hu⟩, ht⟩
      exact ⟨u, hu, (ih u).mpr (h s a u hu ▸ ht)⟩

/-- A fold over two rows gives the same if its steps only look at what the rows have in common. -/
theorem foldlM_congr_map {γ : Type} {key : α → γ}
    (h : ∀ s a b, key a = key b → f s a = f s b) {l l' : List α} (hl : l.map key = l'.map key)
    (s : σ) : l.foldlM f s = l'.foldlM f s := by
  induction l generalizing l' s with
  | nil =>
    obtain rfl := List.map_eq_nil_iff.mp hl.symm
    rfl
  | cons a l ih =>
    obtain ⟨b, rest, rfl, hb, hrest⟩ := List.map_eq_cons_iff.mp hl.symm
    rw [List.foldlM_cons, List.foldlM_cons, h s a b hb.symm]
    exact bind_congr fun t => ih hrest.symm t

end

end TypeAtlas
