/-
# Steps that may fail

A list of steps is taken in order, and the first one that fails decides the
outcome.  So the results of a whole list are the results of its steps, and its
error is the first error among them.
-/

namespace SchemaDto

variable {ε α β : Type}

/-- The error of a step that failed. -/
def failure? : Except ε α → Option ε
  | .error error => some error
  | .ok _ => none

@[simp] theorem failure?_ok (value : α) : failure? (.ok value : Except ε α) = none := rfl

@[simp] theorem failure?_error (error : ε) :
    failure? (.error error : Except ε α) = some error := rfl

theorem failure?_eq_some_iff {step : Except ε α} {error : ε} :
    failure? step = some error ↔ step = .error error := by
  cases step <;> simp

@[simp] theorem failure?_map (f : α → β) (step : Except ε α) :
    failure? (step.map f) = failure? step := by
  cases step <;> rfl

/-- What fails first of two steps, where the failure of the second one does not
depend on the result of the first. -/
theorem failure?_bind {step : Except ε α} {next : α → Except ε β} {error : Option ε}
    (h : ∀ value, failure? (next value) = error) :
    failure? (step >>= next) = (failure? step).or error := by
  cases step with
  | error e => rfl
  | ok value => exact h value

/-- The error of a list of steps is the first error among them. -/
theorem failure?_mapM (f : α → Except ε β) (xs : List α) :
    failure? (xs.mapM f) = xs.findSome? fun x => failure? (f x) := by
  induction xs with
  | nil => rfl
  | cons x rest ih =>
      rw [List.mapM_cons, List.findSome?_cons, ← ih]
      cases f x with
      | error e => rfl
      | ok value => cases rest.mapM f <;> rfl

/-- The first failure among mapped values that pass a test is that of the first
value which passes and fails. -/
theorem findSome?_filter_map {γ : Type} {g : α → β} {p : β → Bool} {f : β → Option γ}
    {fails hit : α → Prop} [DecidablePred fails] [DecidablePred hit] {h : α → γ}
    (step : ∀ x, f (g x) = if fails x then some (h x) else none)
    (both : ∀ x, p (g x) = true ∧ fails x ↔ hit x) (xs : List α) :
    ((xs.map g).filter p).findSome? f = (xs.find? (hit ·)).map h := by
  have steps : f ∘ g = Option.map h ∘ Option.guard (fails ·) := funext fun x => by
    by_cases failed : fails x
    · simp [step, Option.guard, failed]
    · simp [step, Option.guard, failed]
  have tests : ∀ x, decide (p (g x) = true ∧ decide (fails x) = true) = decide (hit x) :=
    fun x => decide_eq_decide.mpr (by rw [decide_eq_true_iff, both x])
  calc ((xs.map g).filter p).findSome? f
      = (xs.filter (p ∘ g)).findSome? (f ∘ g) := by rw [List.filter_map, List.findSome?_map]
    _ = ((xs.filter (p ∘ g)).find? (fails ·)).map h := by
        rw [steps, ← List.map_findSome?, List.findSome?_guard]
    _ = (xs.find? (hit ·)).map h := by
        rw [List.find?_filter, ← funext tests]
        rfl

theorem bind_eq_ok_iff {step : Except ε α} {next : α → Except ε β} {result : β} :
    step >>= next = .ok result ↔ ∃ value, step = .ok value ∧ next value = .ok result := by
  cases step <;> simp [bind, Except.bind]

theorem map_eq_ok_iff {step : Except ε α} {f : α → β} {result : β} :
    step.map f = .ok result ↔ ∃ value, step = .ok value ∧ f value = result := by
  cases step <;> simp [Except.map]

/-- The results of a list of steps are those of the steps, one by one. -/
theorem mapM_eq_ok_iff {f : α → Except ε β} {xs : List α} {ys : List β} :
    xs.mapM f = .ok ys ↔ xs.map f = ys.map .ok := by
  induction xs generalizing ys with
  | nil => cases ys <;> simp [pure, Except.pure]
  | cons x rest ih =>
      simp only [List.mapM_cons, bind_eq_ok_iff, ih, List.map_cons]
      constructor
      · rintro ⟨y, first, others, later, eq⟩
        cases eq
        rw [first, later, List.map_cons]
      · intro h
        cases ys with
        | nil => cases h
        | cons y others =>
            obtain ⟨first, later⟩ := List.cons.inj h
            exact ⟨y, first, others, later, rfl⟩

theorem mem_of_mapM_eq_ok {f : α → Except ε β} {xs : List α} {ys : List β}
    (h : xs.mapM f = .ok ys) {y : β} : y ∈ ys ↔ ∃ x ∈ xs, f x = .ok y := by
  rw [← List.mem_map, mapM_eq_ok_iff.mp h, List.mem_map]
  simp

theorem exists_of_mapM_eq_ok {f : α → Except ε β} {xs : List α} {ys : List β}
    (h : xs.mapM f = .ok ys) {x : α} (mem : x ∈ xs) : ∃ y ∈ ys, f x = .ok y := by
  have step : f x ∈ ys.map .ok := mapM_eq_ok_iff.mp h ▸ List.mem_map_of_mem mem
  obtain ⟨y, inResults, eq⟩ := List.mem_map.mp step
  exact ⟨y, inResults, eq.symm⟩

/-- A list of steps succeeds exactly if all of them do. -/
theorem exists_mapM_eq_ok_iff {f : α → Except ε β} {xs : List α} :
    (∃ ys, xs.mapM f = .ok ys) ↔ ∀ x ∈ xs, ∃ y, f x = .ok y := by
  constructor
  · rintro ⟨ys, h⟩ x mem
    obtain ⟨y, -, step⟩ := exists_of_mapM_eq_ok h mem
    exact ⟨y, step⟩
  · intro steps
    induction xs with
    | nil => exact ⟨[], rfl⟩
    | cons x rest ih =>
        obtain ⟨y, first⟩ := steps x List.mem_cons_self
        obtain ⟨ys, later⟩ := ih fun other mem => steps other (List.mem_cons_of_mem _ mem)
        exact ⟨y :: ys, by rw [List.mapM_cons, first, later]; rfl⟩

/-- Steps in another order have their results in that order. -/
theorem perm_of_mapM_eq_ok {f : α → Except ε β} {xs xs' : List α} {ys ys' : List β}
    (perm : xs.Perm xs') (h : xs.mapM f = .ok ys) (h' : xs'.mapM f = .ok ys') : ys.Perm ys' := by
  have results : ∀ zs : List β, (zs.map (.ok : β → Except ε β)).filterMap Except.toOption = zs := by
    intro zs
    rw [List.filterMap_map]
    exact List.filterMap_some
  have steps : (ys.map (.ok : β → Except ε β)).Perm (ys'.map .ok) := by
    rw [← mapM_eq_ok_iff.mp h, ← mapM_eq_ok_iff.mp h']
    exact perm.map f
  rw [← results ys, ← results ys']
  exact steps.filterMap Except.toOption

/-- What is read off each result alike is read off the list of results. -/
theorem map_of_mapM_eq_ok {γ : Type} {f : α → Except ε β} {xs : List α} {ys : List β}
    (h : xs.mapM f = .ok ys) {view : β → γ} {view' : α → γ}
    (step : ∀ x y, f x = .ok y → view y = view' x) : ys.map view = xs.map view' := by
  replace h := mapM_eq_ok_iff.mp h
  induction xs generalizing ys with
  | nil =>
      rw [List.map_nil, eq_comm, List.map_eq_nil_iff] at h
      rw [h, List.map_nil, List.map_nil]
  | cons x rest ih =>
      cases ys with
      | nil => cases h
      | cons y others =>
          obtain ⟨first, others⟩ := List.cons.inj h
          rw [List.map_cons, List.map_cons, step x y first, ih others]

/-- Steps on a part of a list have the results on the whole list that belong to the part. -/
theorem mapM_filter_of_mapM_eq_ok {f : α → Except ε β} {keep : α → Bool} {keep' : β → Bool}
    {xs : List α} {ys : List β} (h : xs.mapM f = .ok ys)
    (alike : ∀ x y, f x = .ok y → keep' y = keep x) :
    (xs.filter keep).mapM f = .ok (ys.filter keep') := by
  rw [mapM_eq_ok_iff] at h ⊢
  induction xs generalizing ys with
  | nil =>
      rw [List.map_nil, eq_comm, List.map_eq_nil_iff] at h
      rw [h, List.filter_nil, List.filter_nil, List.map_nil, List.map_nil]
  | cons x rest ih =>
      cases ys with
      | nil => cases h
      | cons y others =>
          obtain ⟨first, later⟩ := List.cons.inj h
          rw [List.filter_cons, List.filter_cons, alike x y first]
          split
          · rw [List.map_cons, List.map_cons, first, ih later]
          · exact ih later

/-- Steps that turn their results into views succeed with the views. -/
theorem mapM_map_of_mapM_eq_ok {γ : Type} {f : α → Except ε β} {xs : List α} {ys : List β}
    (h : xs.mapM f = .ok ys) (view : β → α → γ) :
    xs.mapM (fun x => (f x).map (view · x)) = .ok ((ys.zip xs).map fun (y, x) => view y x) := by
  rw [mapM_eq_ok_iff] at h ⊢
  induction xs generalizing ys with
  | nil => simp
  | cons x rest ih =>
      cases ys with
      | nil => cases h
      | cons y others =>
          obtain ⟨first, later⟩ := List.cons.inj h
          rw [List.map_cons, first, ih later]
          rfl

theorem mapM_map_eq_some {γ : Type} {f : β → Option γ} {g : α → β} {h : α → γ} {xs : List α}
    (step : ∀ x ∈ xs, f (g x) = some (h x)) : (xs.map g).mapM f = some (xs.map h) := by
  induction xs with
  | nil => rfl
  | cons x rest ih =>
      have others := ih fun y mem => step y (List.mem_cons_of_mem _ mem)
      simp [step x List.mem_cons_self, others]

end SchemaDto
