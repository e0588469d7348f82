/-
# First uses

A list without repetitions keeps the first use of each of its values, in order.  Built
from the front, it takes in a new last value only if that has not occurred.  Where the
values are given by sources, some of which give none, their order is that of the first
source of each (`eraseDups_filterMap_pairwise`).
-/
import Mathlib.Data.List.Induction
import Mathlib.Data.List.Nodup

namespace SchemaDto

variable {α : Type} [BEq α] [LawfulBEq α]

/-- A new last element is kept only if it has not occurred. -/
theorem eraseDups_concat (xs : List α) (x : α) :
    (xs ++ [x]).eraseDups = if x ∈ xs then xs.eraseDups else xs.eraseDups ++ [x] := by
  rw [List.eraseDups_append]
  by_cases h : x ∈ xs <;> simp [List.removeAll, h, List.eraseDups_cons]

theorem nodup_eraseDups (xs : List α) : xs.eraseDups.Nodup := by
  induction xs using List.reverseRecOn with
  | nil => exact .nil
  | append_singleton xs x ih =>
      rw [eraseDups_concat]
      split
      · exact ih
      · next new =>
          have fresh : x ∉ xs.eraseDups := fun mem => new (List.mem_eraseDups.mp mem)
          exact List.nodup_append.mpr ⟨ih, List.nodup_singleton x, by
            rintro y hy _ hx rfl
            exact fresh (List.mem_singleton.mp hx ▸ hy)⟩

/-! ## Values with their sources -/

section Sources

variable {σ : Type} (value? : σ → Option α) (sources : List σ)

/-- A value has a first source exactly if it is given at all. -/
theorem findIdx_lt_length_iff_mem_filterMap {x : α} :
    sources.findIdx (value? · == some x) < sources.length ↔ x ∈ sources.filterMap value? := by
  simp only [List.findIdx_lt_length, List.mem_filterMap, beq_iff_eq]

/-- Values stand in the order of their first sources. -/
theorem eraseDups_filterMap_pairwise :
    (sources.filterMap value?).eraseDups.Pairwise fun x y =>
      sources.findIdx (value? · == some x) < sources.findIdx (value? · == some y) := by
  induction sources using List.reverseRecOn with
  | nil => exact .nil
  | append_singleton earlier last ih =>
      have early : ∀ x ∈ (earlier.filterMap value?).eraseDups,
          earlier.findIdx (value? · == some x) < earlier.length := fun x mem =>
        (findIdx_lt_length_iff_mem_filterMap value? earlier).mpr (List.mem_eraseDups.mp mem)
      -- one more source is not the first one of a value that is there
      have kept : ∀ x ∈ (earlier.filterMap value?).eraseDups,
          (earlier ++ [last]).findIdx (value? · == some x) =
            earlier.findIdx (value? · == some x) := by
        intro x mem
        rw [List.findIdx_append, if_pos (early x mem)]
      have carried : (earlier.filterMap value?).eraseDups.Pairwise fun x y =>
          (earlier ++ [last]).findIdx (value? · == some x) <
            (earlier ++ [last]).findIdx (value? · == some y) := by
        refine ih.imp_of_mem fun memX memY lt => ?_
        rw [kept _ memX, kept _ memY]
        exact lt
      rw [List.filterMap_append]
      cases given : value? last with
      | none =>
          rw [List.filterMap_cons_none given, List.filterMap_nil, List.append_nil]
          exact carried
      | some newest =>
          rw [List.filterMap_cons_some given, List.filterMap_nil, eraseDups_concat]
          split
          · exact carried
          · next new =>
              refine List.pairwise_append.mpr ⟨carried, List.pairwise_singleton _ _, ?_⟩
              intro x mem y isNew
              obtain rfl := List.mem_singleton.mp isNew
              have late := mt (findIdx_lt_length_iff_mem_filterMap value? earlier).mp new
              rw [kept x mem, List.findIdx_append, if_neg late]
              exact Nat.lt_add_left _ (early x mem)

end Sources

end SchemaDto
