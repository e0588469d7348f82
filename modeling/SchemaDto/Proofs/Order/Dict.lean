/-
# Entries of a dictionary

Looking a name up finds exactly the entry of that name, because the names of a
dictionary are strictly ascending.  The dictionary of a list has the names of
that list, which makes `ascending` a sort that drops repetitions.
-/
import SchemaDto.Order.Dict

namespace SchemaDto

namespace Dict

variable {α : Type}

/-! ## Entries and look-up -/

theorem find_of_mem {entries : List (String × α)} {key : String} {value : α}
    (order : entries.Pairwise (fun a b => a.1 < b.1)) (mem : (key, value) ∈ entries) :
    entries.find? (·.1 == key) = some (key, value) := by
  induction entries with
  | nil => exact absurd mem List.not_mem_nil
  | cons first rest ih =>
      obtain ⟨below, order⟩ := List.pairwise_cons.mp order
      rcases List.mem_cons.mp mem with rfl | mem
      · exact List.find?_cons_of_pos (by simp)
      · have lt : first.1 < key := below _ mem
        have ne : first.1 ≠ key := fun eq => String.lt_irrefl key (eq ▸ lt)
        rw [List.find?_cons_of_neg (by simpa using ne)]
        exact ih order mem

/-- A name has a value if the two are an entry. -/
theorem get?_eq_some_iff {d : Dict α} {key : String} {value : α} :
    d.get? key = some value ↔ (key, value) ∈ d.entries := by
  constructor
  · intro h
    obtain ⟨entry, found, rfl⟩ := Option.map_eq_some_iff.mp h
    have name : entry.1 = key := by simpa using List.find?_some found
    exact name ▸ List.mem_of_find?_eq_some found
  · intro mem
    rw [get?, find_of_mem d.ascending mem]
    rfl

theorem mem_keys_iff {d : Dict α} {key : String} :
    key ∈ d.keys ↔ (d.get? key).isSome = true := by
  rw [Option.isSome_iff_exists, keys, List.mem_map]
  constructor
  · rintro ⟨entry, mem, rfl⟩
    exact ⟨entry.2, get?_eq_some_iff.mpr mem⟩
  · rintro ⟨value, found⟩
    exact ⟨(key, value), get?_eq_some_iff.mp found, rfl⟩

/-! ## Leaving a name out -/

/-- The dictionary without the entry of a name. -/
def erase (d : Dict α) (key : String) : Dict α :=
  ⟨d.entries.filter (·.1 != key), d.ascending.filter _⟩

theorem get?_erase_self (d : Dict α) (key : String) : (d.erase key).get? key = none := by
  have none : (d.erase key).entries.find? (·.1 == key) = none := by
    refine List.find?_eq_none.mpr fun entry mem named => ?_
    have ne := (List.mem_filter.mp mem).2
    simp [beq_iff_eq.mp named] at ne
  rw [get?, none]
  rfl

theorem get?_erase_of_ne (d : Dict α) {key other : String} (ne : other ≠ key) :
    (d.erase key).get? other = d.get? other := by
  refine Option.ext fun value => ?_
  rw [get?_eq_some_iff, get?_eq_some_iff]
  exact List.mem_filter.trans (and_iff_left (bne_iff_ne.mpr ne))

/-! ## The dictionary of a list -/

theorem isSome_get?_foldl (entries : List (String × α)) (d : Dict α) (key : String) :
    ((entries.foldl (fun d entry => d.insert entry.1 entry.2) d).get? key).isSome = true ↔
      key ∈ entries.map (·.1) ∨ (d.get? key).isSome = true := by
  induction entries generalizing d with
  | nil => simp
  | cons entry rest ih =>
      rw [List.foldl_cons, ih, get?_insert, List.map_cons, List.mem_cons]
      by_cases eq : entry.1 = key
      · simp [eq]
      · have ne : key ≠ entry.1 := fun h => eq h.symm
        simp [eq, ne]

theorem mem_keys_ofList {entries : List (String × α)} {key : String} :
    key ∈ (ofList entries).keys ↔ key ∈ entries.map (·.1) := by
  rw [mem_keys_iff, ofList, isSome_get?_foldl]
  simp

end Dict

/-! ## Sorting names -/

/-- Sorting keeps the names. -/
@[simp] theorem mem_ascending {names : List String} {name : String} :
    name ∈ ascending names ↔ name ∈ names := by
  rw [ascending, Dict.mem_keys_ofList]
  simp

theorem ascending_pairwise (names : List String) : (ascending names).Pairwise (· < ·) :=
  Dict.keys_ascending _

/-- Strictly ascending names are distinct. -/
theorem nodup_of_ascending {names : List String} (h : names.Pairwise (· < ·)) :
    names.Nodup := by
  refine h.imp ?_
  rintro a b lt rfl
  exact String.lt_irrefl a lt

/-! ## Entries in any order -/

namespace Dict

variable {α : Type}

/-- A dictionary is determined by its entries in any order. -/
theorem eq_of_perm {d d' : Dict α} (perm : d.entries.Perm d'.entries) : d = d' := by
  have same : d.entries = d'.entries := by
    refine List.Perm.eq_of_pairwise ?_ d.ascending d'.ascending perm
    intro a b _ _ lt gt
    exact absurd (String.lt_trans lt gt) (String.lt_irrefl a.1)
  cases d
  cases d'
  cases same
  rfl

/-- A new name only adds its entry. -/
theorem place_perm {key : String} {value : α} {entries : List (String × α)}
    (new : key ∉ entries.map (·.1)) : (place key value entries).Perm ((key, value) :: entries) := by
  induction entries with
  | nil => exact .refl _
  | cons first rest ih =>
      obtain ⟨ne, new⟩ := not_or.mp (mt List.mem_cons.mpr new)
      unfold place
      split
      · exact .refl _
      · exact ((ih new).cons first).trans (.swap _ _ _)

theorem foldl_insert_perm {entries : List (String × α)} (d : Dict α)
    (distinct : (entries.map (·.1)).Nodup) (new : ∀ key ∈ entries.map (·.1), key ∉ d.keys) :
    (entries.foldl (fun d entry => d.insert entry.1 entry.2) d).entries.Perm
      (entries ++ d.entries) := by
  induction entries generalizing d with
  | nil => exact .refl _
  | cons entry rest ih =>
      obtain ⟨once, distinct⟩ := List.nodup_cons.mp distinct
      have placed : (d.insert entry.1 entry.2).entries.Perm (entry :: d.entries) :=
        place_perm (new entry.1 List.mem_cons_self)
      have others := ih (d.insert entry.1 entry.2) distinct (by
        intro key mem inside
        have keys : key ∈ entry.1 :: d.keys := (placed.map (·.1)).mem_iff.mp inside
        rcases List.mem_cons.mp keys with rfl | inside
        · exact once mem
        · exact new key (List.mem_cons_of_mem _ mem) inside)
      exact others.trans ((placed.append_left rest).trans List.perm_middle)

/-- Some dictionary has the given values under distinct names, and nothing else. -/
theorem exists_get?_eq_lookup {entries : List (String × Option α)}
    (distinct : (entries.map (·.1)).Nodup) :
    ∃ d : Dict α, ∀ key, d.get? key = (entries.lookup key).join := by
  induction entries with
  | nil => exact ⟨empty, fun _ => rfl⟩
  | cons entry rest ih =>
      obtain ⟨once, distinct⟩ := List.nodup_cons.mp distinct
      obtain ⟨d, found⟩ := ih distinct
      obtain ⟨name, value?⟩ := entry
      cases value? with
      | none =>
          refine ⟨d, fun key => ?_⟩
          by_cases eq : key = name
          · subst eq
            have absent : rest.lookup key = none := by
              refine List.lookup_eq_none_iff.mpr fun other mem => bne_iff_ne.mpr ?_
              rintro rfl
              exact once (List.mem_map.mpr ⟨other, mem, rfl⟩)
            rw [found, absent, List.lookup_cons_self]
            rfl
          · rw [found, List.lookup_cons, beq_eq_false_iff_ne.mpr eq]
      | some value =>
          refine ⟨d.insert name value, fun key => ?_⟩
          rw [get?_insert, found]
          by_cases eq : name = key
          · rw [if_pos eq, eq, List.lookup_cons_self]
            rfl
          · rw [if_neg eq, List.lookup_cons, beq_eq_false_iff_ne.mpr (Ne.symm eq)]

/-- The entries of a dictionary in any order give the dictionary back. -/
theorem ofList_of_perm {d : Dict α} {entries : List (String × α)}
    (perm : entries.Perm d.entries) : ofList entries = d := by
  have distinct : (entries.map (·.1)).Nodup := by
    rw [(perm.map (·.1)).nodup_iff]
    exact nodup_of_ascending d.keys_ascending
  have all := foldl_insert_perm empty distinct fun key _ => List.not_mem_nil
  rw [show (empty : Dict α).entries = [] from rfl, List.append_nil] at all
  exact eq_of_perm (all.trans perm)

end Dict

end SchemaDto
