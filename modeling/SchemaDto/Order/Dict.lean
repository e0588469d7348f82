/-
# Dictionaries in key order

A dictionary holds at most one value per name and lists its entries by strictly
ascending names, so two dictionaries with the same entries are equal.  Names
are ordered by code points, which is also the order of their UTF-8 bytes.
-/

namespace SchemaDto

/-- Values by name.  The entries stand in strictly ascending order of their
names. -/
structure Dict (α : Type) where
  entries : List (String × α)
  ascending : entries.Pairwise (fun a b => a.1 < b.1) := by exact .nil

namespace Dict

variable {α : Type}

/-- The dictionary without entries. -/
def empty : Dict α := ⟨[], .nil⟩

instance : Inhabited (Dict α) := ⟨empty⟩

instance [DecidableEq α] : DecidableEq (Dict α) := fun a b =>
  decidable_of_iff (a.entries = b.entries)
    ⟨fun h => by cases a; cases b; subst h; rfl, fun h => h ▸ rfl⟩

instance [Repr α] : Repr (Dict α) := ⟨fun d n => reprPrec d.entries n⟩

/-- Puts an entry in its place in an ascending list, replacing the entry of the
same name. -/
def place (key : String) (value : α) : List (String × α) → List (String × α)
  | [] => [(key, value)]
  | entry :: rest =>
    if key < entry.1 then (key, value) :: entry :: rest
    else if key = entry.1 then (key, value) :: rest
    else entry :: place key value rest

/-- A placed entry brings no name but its own. -/
theorem fst_of_mem_place {key : String} {value : α} {entry : String × α}
    {entries : List (String × α)} (h : entry ∈ place key value entries) :
    entry.1 = key ∨ entry ∈ entries := by
  induction entries with
  | nil => simp only [place, List.mem_singleton] at h; exact .inl (h ▸ rfl)
  | cons first rest ih =>
    unfold place at h
    split at h
    · rcases List.mem_cons.1 h with rfl | h
      · exact .inl rfl
      · exact .inr h
    · split at h
      · rcases List.mem_cons.1 h with rfl | h
        · exact .inl rfl
        · exact .inr (List.mem_cons_of_mem _ h)
      · rcases List.mem_cons.1 h with rfl | h
        · exact .inr (List.mem_cons_self ..)
        · exact (ih h).imp_right (List.mem_cons_of_mem _)

/-- Placing an entry keeps the order. -/
theorem place_ascending {key : String} {value : α} {entries : List (String × α)}
    (h : entries.Pairwise (fun a b => a.1 < b.1)) :
    (place key value entries).Pairwise (fun a b => a.1 < b.1) := by
  induction entries with
  | nil => exact .cons (fun _ h => absurd h List.not_mem_nil) .nil
  | cons first rest ih =>
    obtain ⟨below, rest_ascending⟩ := List.pairwise_cons.1 h
    unfold place
    split
    · next lt =>
      refine .cons (fun entry mem => ?_) h
      rcases List.mem_cons.1 mem with rfl | mem
      · exact lt
      · exact String.lt_trans lt (below entry mem)
    · next not_lt =>
      split
      · next eq => exact .cons (fun entry mem => eq ▸ below entry mem) rest_ascending
      · next ne =>
        refine .cons (fun entry mem => ?_) (ih rest_ascending)
        rcases fst_of_mem_place mem with eq | mem
        · have le : first.1 ≤ key := String.not_lt.1 not_lt
          have : ¬ key ≤ first.1 := fun ge => ne (String.le_antisymm ge le)
          exact eq ▸ String.not_le.1 this
        · exact below entry mem

/-- The dictionary with one more entry; an entry of that name is replaced. -/
def insert (d : Dict α) (key : String) (value : α) : Dict α :=
  ⟨place key value d.entries, place_ascending d.ascending⟩

/-- The value of a name. -/
def get? (d : Dict α) (key : String) : Option α :=
  (d.entries.find? (·.1 == key)).map (·.2)

/-- The names, in ascending order. -/
def keys (d : Dict α) : List String := d.entries.map (·.1)

/-- All the entries of a list; of several with one name the last one counts. -/
def ofList (entries : List (String × α)) : Dict α :=
  entries.foldl (fun d entry => d.insert entry.1 entry.2) empty

end Dict

/-- The distinct names of a list, in ascending order. -/
def ascending (names : List String) : List String :=
  (Dict.ofList (names.map fun name => (name, ()))).keys

namespace Dict

variable {α : Type}

/-! ## Looking up -/

theorem find_place {key : String} {value : α} {entries : List (String × α)} (other : String) :
    ((place key value entries).find? (·.1 == other)).map (·.2) =
      if key = other then some value else (entries.find? (·.1 == other)).map (·.2) := by
  induction entries with
  | nil => by_cases h : key = other <;> simp [place, h]
  | cons first rest ih =>
    unfold place
    split
    · by_cases h : key = other <;> simp [h]
    · split
      · next eq => by_cases h : key = other <;> simp [h, ← eq]
      · next ne =>
        by_cases h : first.1 = other
        · have : key ≠ other := fun eq => ne (eq.trans h.symm)
          simp [h, this]
        · rw [List.find?_cons_of_neg (by simpa using h), List.find?_cons_of_neg (by simpa using h)]
          exact ih

/-- Looking up after an insertion finds the new value under its name and
everything else as before. -/
theorem get?_insert (d : Dict α) (key other : String) (value : α) :
    (d.insert key value).get? other = if key = other then some value else d.get? other :=
  find_place other

@[simp] theorem get?_empty (key : String) : (empty : Dict α).get? key = none := rfl

/-- The names of a dictionary are strictly ascending. -/
theorem keys_ascending (d : Dict α) : d.keys.Pairwise (· < ·) :=
  List.pairwise_map.2 d.ascending

end Dict

end SchemaDto
