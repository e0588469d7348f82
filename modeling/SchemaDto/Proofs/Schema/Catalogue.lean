/-
# Names of the catalogue

The catalogue of a list of declarations has the names of that list, each once and in
order of first declaration (`names_ofList`), and looking a name up finds an enumeration
exactly if the name is one of them.  What it finds is the last declaration of the name
(`find?_ofList`).  So a catalogue does the work of two containers, a map from names to
enumerations and a list of the names in order (`represents_ofList`).
-/
import SchemaDto.Proofs.Order.FirstUse
import SchemaDto.Schema.Catalogue

namespace SchemaDto

/-- Of enumerations with distinct names, one has a given name. -/
theorem Enumeration.filter_name {enums : List Enumeration} {enum : Enumeration}
    (distinct : (enums.map (·.name)).Nodup) (mem : enum ∈ enums) :
    enums.filter (·.name == enum.name) = [enum] := by
  induction enums with
  | nil => exact absurd mem List.not_mem_nil
  | cons first rest ih =>
      obtain ⟨fresh, distinct⟩ := List.nodup_cons.mp distinct
      rcases List.mem_cons.mp mem with rfl | mem
      · have others : rest.filter (·.name == enum.name) = [] := by
          refine List.filter_eq_nil_iff.mpr fun other isOther same => fresh ?_
          exact List.mem_map.mpr ⟨other, isOther, eq_of_beq same⟩
        rw [List.filter_cons_of_pos (by simp), others]
      · have different : first.name ≠ enum.name := by
          intro same
          exact fresh (List.mem_map.mpr ⟨enum, mem, same.symm⟩)
        rw [List.filter_cons_of_neg (by simpa using different)]
        exact ih distinct mem

namespace Catalogue

variable {catalogue : Catalogue}

/-! ## Names and look-up -/

theorem mem_names_of_find? {name : String} {enum : Enumeration}
    (h : catalogue.find? name = some enum) : enum.name ∈ catalogue.names :=
  List.mem_map_of_mem (List.mem_of_find?_eq_some h)

theorem find?_eq_none_iff {name : String} :
    catalogue.find? name = none ↔ name ∉ catalogue.names := by
  rw [find?, Enumeration.find?, List.find?_eq_none, names, List.mem_map]
  constructor
  · rintro none ⟨enum, mem, rfl⟩
    exact none enum mem (beq_self_eq_true _)
  · intro absent enum mem same
    exact absent ⟨enum, mem, eq_of_beq same⟩

/-- Looking the names up gives the enumerations of the catalogue: no name is without one. -/
theorem filterMap_find?_names (catalogue : Catalogue) :
    catalogue.names.filterMap catalogue.find? = catalogue.enums := by
  rw [names, List.filterMap_map]
  refine (List.filterMap_congr fun enum mem => ?_).trans List.filterMap_some
  show Enumeration.find? catalogue.enums enum.name = some enum
  rw [Enumeration.find?, ← List.head?_filter, Enumeration.filter_name catalogue.distinct mem]
  rfl

/-! ## Declarations -/

theorem names_insert (catalogue : Catalogue) (enum : Enumeration) :
    (catalogue.insert enum).names =
      if enum.name ∈ catalogue.names then catalogue.names else catalogue.names ++ [enum.name] :=
  map_name_enter enum catalogue.enums

theorem mem_names_insert {enum : Enumeration} {name : String} :
    name ∈ (catalogue.insert enum).names ↔ name ∈ catalogue.names ∨ name = enum.name := by
  rw [names_insert]
  split
  · next known =>
      constructor
      · exact .inl
      · rintro (mem | rfl)
        · exact mem
        · exact known
  · rw [List.mem_append, List.mem_singleton]

theorem mem_names_foldl {enums : List Enumeration} {name : String} :
    name ∈ (enums.foldl insert catalogue).names ↔
      name ∈ catalogue.names ∨ name ∈ enums.map (·.name) := by
  induction enums generalizing catalogue with
  | nil => simp
  | cons enum rest ih =>
      rw [List.foldl_cons, ih, mem_names_insert, List.map_cons, List.mem_cons, or_assoc]

/-- Every declared name is in the catalogue, and no other. -/
theorem mem_names_ofList {enums : List Enumeration} {name : String} :
    name ∈ (ofList enums).names ↔ name ∈ enums.map (·.name) := by
  rw [ofList, mem_names_foldl, or_iff_right]
  exact List.not_mem_nil

theorem ofList_concat (enums : List Enumeration) (last : Enumeration) :
    ofList (enums ++ [last]) = (ofList enums).insert last := by
  rw [ofList, List.foldl_append]
  rfl

/-- Names stand in the order of their first declarations. -/
theorem names_ofList (enums : List Enumeration) :
    (ofList enums).names = (enums.map (·.name)).eraseDups := by
  induction enums using List.reverseRecOn with
  | nil => rfl
  | append_singleton earlier last ih =>
      rw [ofList_concat, List.map_append, List.map_singleton, eraseDups_concat, ← ih,
        names_insert]
      simp only [mem_names_ofList]

/-! ## The last declaration counts -/

theorem find?_enter (enum : Enumeration) (enums : List Enumeration) (name : String) :
    Enumeration.find? (enter enum enums) name =
      if enum.name = name then some enum else Enumeration.find? enums name := by
  unfold Enumeration.find?
  induction enums with
  | nil => by_cases h : enum.name = name <;> simp [enter, h]
  | cons first rest ih =>
      by_cases same : first.name = enum.name
      · -- the declaration takes the place of the one with its name
        rw [enter, if_pos same]
        by_cases h : enum.name = name
        · simp [h]
        · have h' : first.name ≠ name := fun eq => h (same.symm.trans eq)
          simp [h, h']
      · rw [enter, if_neg same, List.find?_cons, List.find?_cons, ih]
        by_cases h : first.name = name
        · have h' : enum.name ≠ name := fun eq => same (h.trans eq.symm)
          simp [h, h']
        · have h' : (first.name == name) = false := beq_eq_false_iff_ne.mpr h
          rw [h']

/-- Looking a name up among declarations finds the last one of the name. -/
theorem find?_ofList (enums : List Enumeration) (name : String) :
    (ofList enums).find? name = Enumeration.find? enums.reverse name := by
  induction enums using List.reverseRecOn with
  | nil => rfl
  | append_singleton earlier last ih =>
      rw [ofList_concat, find?, insert, find?_enter, ← find?, ih, List.reverse_append,
        List.reverse_singleton, List.singleton_append]
      by_cases h : last.name = name <;> simp [Enumeration.find?, h]

/-! ## A map and an order -/

/-- Declarations in two containers: a map from names to enumerations, and the names in the
order in which they were met. -/
structure Index where
  bound : Std.HashMap String Enumeration := ∅
  order : List String := []

namespace Index

/-- One more declaration.  A new name comes last; the enumeration is bound to the name in any
case, so an earlier one of that name is gone. -/
def declare (index : Index) (enum : Enumeration) : Index where
  bound := index.bound.insert enum.name enum
  order := if index.bound.contains enum.name then index.order else index.order ++ [enum.name]

/-- The index of a list of declarations. -/
def ofList (enums : List Enumeration) : Index := enums.foldl declare {}

/-- The index lists the names of the catalogue, and it binds them, and only them, to the same
enumerations. -/
structure Represents (index : Index) (catalogue : Catalogue) : Prop where
  order : index.order = catalogue.names
  bound : ∀ name, index.bound[name]? = catalogue.find? name

variable {index : Index}

theorem Represents.contains_iff (h : index.Represents catalogue) (name : String) :
    index.bound.contains name = true ↔ name ∈ catalogue.names := by
  rw [Std.HashMap.contains_eq_isSome_getElem?, h.bound, Option.isSome_iff_ne_none, ne_eq,
    find?_eq_none_iff, not_not]

/-- A declaration does the same to both. -/
theorem Represents.declare (h : index.Represents catalogue) (enum : Enumeration) :
    (index.declare enum).Represents (catalogue.insert enum) where
  order := by
    rw [names_insert, Index.declare, h.order]
    simp only [h.contains_iff]
  bound := by
    intro name
    show (index.bound.insert enum.name enum)[name]? = Enumeration.find? (enter enum _) name
    rw [Std.HashMap.getElem?_insert, find?_enter, h.bound]
    simp only [beq_iff_eq]
    rfl

theorem Represents.foldl (h : index.Represents catalogue) (enums : List Enumeration) :
    (enums.foldl Index.declare index).Represents (enums.foldl insert catalogue) := by
  induction enums generalizing index catalogue with
  | nil => exact h
  | cons enum rest ih => exact ih (h.declare enum)

/-- Looking the names of the index up in their order gives the enumerations of the catalogue. -/
theorem Represents.filterMap_bound (h : index.Represents catalogue) :
    index.order.filterMap (fun name => index.bound[name]?) = catalogue.enums := by
  rw [h.order, ← filterMap_find?_names catalogue]
  exact List.filterMap_congr fun name _ => h.bound name

/-- The index and the catalogue of the same declarations agree. -/
theorem represents_ofList (enums : List Enumeration) :
    (ofList enums).Represents (Catalogue.ofList enums) := by
  have none : ({} : Index).Represents empty :=
    { order := rfl
      bound := fun _ => Std.HashMap.getElem?_empty }
  exact none.foldl enums

end Index

end Catalogue

end SchemaDto
