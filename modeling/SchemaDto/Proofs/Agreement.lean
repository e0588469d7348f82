/-
# Two runs side by side

Two fallible steps agree if both fail with the same error, or both succeed with
results that are related.  Steps that agree can be put one after the other: a list of
them agrees element by element, on its results as on its first error.  Where only the
success of the first step carries over to the second one, the second one follows it, and
lists of steps follow each other in the same way.  Where the one run takes a part of the
list only, its results stand beside those for the same part.
-/
import Mathlib.Data.List.Forall2
import SchemaDto.Proofs.Fallible

namespace SchemaDto

variable {ε α β γ δ : Type}

/-- Both steps fail with the same error, or both succeed with related results. -/
inductive Agree (R : α → β → Prop) : Except ε α → Except ε β → Prop
  | error (error : ε) : Agree R (.error error) (.error error)
  | ok {a : α} {b : β} : R a b → Agree R (.ok a) (.ok b)

namespace Agree

variable {R : α → β → Prop} {S : γ → δ → Prop} {step : Except ε α} {step' : Except ε β}

/-- A step agrees with itself on what holds of its result. -/
theorem of_self {step : Except ε α} {R : α → α → Prop} (h : ∀ a, step = .ok a → R a a) :
    Agree R step step := by
  cases step with
  | error error => exact .error error
  | ok a => exact .ok (h a rfl)

theorem map_iff {f : α → γ} {g : β → δ} :
    Agree S (step.map f) (step'.map g) ↔ Agree (fun a b => S (f a) (g b)) step step' := by
  constructor
  · intro h
    cases step with
    | error error =>
        cases step' with
        | error error' => cases h; exact .error error
        | ok b => cases h
    | ok a =>
        cases step' with
        | error error' => cases h
        | ok b => cases h with | ok related => exact .ok related
  · intro h
    cases h with
    | error error => exact .error error
    | ok related => exact .ok related

/-- What the two results are the results of can be kept. -/
theorem attach (h : Agree R step step') :
    Agree (fun a b => step = .ok a ∧ step' = .ok b ∧ R a b) step step' := by
  cases h with
  | error error => exact .error error
  | ok related => exact .ok ⟨rfl, rfl, related⟩

theorem imp {R' : α → β → Prop} (h : Agree R step step') (weaker : ∀ a b, R a b → R' a b) :
    Agree R' step step' := by
  cases h with
  | error error => exact .error error
  | ok related => exact .ok (weaker _ _ related)

theorem bind {f : α → Except ε γ} {g : β → Except ε δ} (h : Agree R step step')
    (next : ∀ a b, R a b → Agree S (f a) (g b)) : Agree S (step >>= f) (step' >>= g) := by
  cases h with
  | error error => exact .error error
  | ok related => exact next _ _ related

/-- Lists of steps that agree one by one agree, and their results are related one by
one. -/
theorem mapM {f : α → Except ε γ} {g : α → Except ε δ} {xs : List α}
    (h : ∀ x ∈ xs, Agree S (f x) (g x)) : Agree (List.Forall₂ S) (xs.mapM f) (xs.mapM g) := by
  induction xs with
  | nil => exact .ok .nil
  | cons x rest ih =>
      rw [List.mapM_cons, List.mapM_cons]
      have others := ih fun y mem => h y (List.mem_cons_of_mem _ mem)
      refine (h x List.mem_cons_self).bind fun a b first => others.bind fun as bs later => ?_
      exact .ok (.cons first later)

end Agree

/-! ## Success that carries over -/

/-- Where the first step succeeds, the second one does, with a related result. -/
def Follows (R : α → β → Prop) (step : Except ε α) (step' : Except ε β) : Prop :=
  ∀ a, step = .ok a → ∃ b, step' = .ok b ∧ R a b

namespace Follows

variable {R : α → β → Prop} {S : γ → δ → Prop} {step : Except ε α} {step' : Except ε β}

theorem ok {a : α} {b : β} (related : R a b) :
    Follows R (.ok a : Except ε α) (.ok b : Except ε β) := by
  rintro _ ⟨⟩
  exact ⟨b, rfl, related⟩

theorem bind {f : α → Except ε γ} {g : β → Except ε δ} (h : Follows R step step')
    (next : ∀ a b, R a b → Follows S (f a) (g b)) : Follows S (step >>= f) (step' >>= g) := by
  intro c run
  obtain ⟨a, first, later⟩ := bind_eq_ok_iff.mp run
  obtain ⟨b, first', related⟩ := h a first
  obtain ⟨d, later', related'⟩ := next a b related c later
  exact ⟨d, bind_eq_ok_iff.mpr ⟨b, first', later'⟩, related'⟩

theorem mapM {f : α → Except ε γ} {g : α → Except ε δ} {xs : List α}
    (h : ∀ x ∈ xs, Follows S (f x) (g x)) :
    Follows (List.Forall₂ S) (xs.mapM f) (xs.mapM g) := by
  induction xs with
  | nil => exact .ok .nil
  | cons x rest ih =>
      rw [List.mapM_cons, List.mapM_cons]
      have others := ih fun y mem => h y (List.mem_cons_of_mem _ mem)
      refine (h x List.mem_cons_self).bind fun a b first => others.bind fun as bs later => ?_
      exact .ok (.cons first later)

end Follows

/-! ## Steps on a part of a list -/

section Part

variable {f g : α → Except ε β} {keep : α → Bool} {xs : List α} {ys zs : List β}

theorem map_fst_filter_zip (keep : α → Bool) (h : xs.length ≤ zs.length) :
    ((xs.zip zs).filter fun pair => keep pair.1).map Prod.fst = xs.filter keep := by
  calc ((xs.zip zs).filter fun pair => keep pair.1).map Prod.fst
      = ((xs.zip zs).map Prod.fst).filter keep := List.filter_map.symm
    _ = xs.filter keep := by rw [List.map_fst_zip h]

/-- The results of steps on a part of a list stand beside those of other steps on the
whole list, once these are restricted to the same part. -/
theorem forall₂_of_mapM_filter (h : (xs.filter keep).mapM f = .ok ys) (h' : xs.mapM g = .ok zs) :
    List.Forall₂ (fun y pair => keep pair.1 = true ∧ f pair.1 = .ok y ∧ g pair.1 = .ok pair.2) ys
      ((xs.zip zs).filter fun pair => keep pair.1) := by
  rw [mapM_eq_ok_iff] at h h'
  induction xs generalizing ys zs with
  | nil =>
      cases ys with
      | nil => exact .nil
      | cons y ys => cases h
  | cons x rest ih =>
      cases zs with
      | nil => cases h'
      | cons z zs =>
          obtain ⟨first', later'⟩ := List.cons.inj h'
          rw [List.filter_cons] at h
          rw [List.zip_cons_cons, List.filter_cons]
          by_cases kept : keep x = true
          · rw [if_pos kept] at h ⊢
            cases ys with
            | nil => cases h
            | cons y ys =>
                obtain ⟨first, later⟩ := List.cons.inj h
                exact .cons ⟨kept, first, first'⟩ (ih later later')
          · -- the result for `x` is among `zs` only, and the filter drops it there
            rw [if_neg kept] at h ⊢
            exact ih h later'

end Part

end SchemaDto
