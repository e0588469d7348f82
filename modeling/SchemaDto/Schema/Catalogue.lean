/-
# The enum catalogue

An enumeration is a name with its values in declaration order.  The catalogue
holds the enumerations of a schema: every name once, in order of first
declaration, with the values of its last declaration.
-/

namespace SchemaDto

/-- An enumeration: its name and its values in declaration order. -/
structure Enumeration where
  name : String
  values : List String
deriving DecidableEq, Repr, Inhabited

/-- The first enumeration of that name in a list of declarations. -/
def Enumeration.find? (enums : List Enumeration) (name : String) : Option Enumeration :=
  enums.find? (·.name == name)

/-- Enumerations with pairwise distinct names. -/
structure Catalogue where
  enums : List Enumeration
  distinct : (enums.map (·.name)).Nodup := by exact .nil
deriving DecidableEq

namespace Catalogue

/-- Puts an enumeration in the place of the one with its name, or last. -/
def enter (enum : Enumeration) : List Enumeration → List Enumeration
  | [] => [enum]
  | first :: rest => if first.name = enum.name then enum :: rest else first :: enter enum rest

/-- Entering an enumeration adds its name if it is new and keeps the order of
the others. -/
theorem map_name_enter (enum : Enumeration) (enums : List Enumeration) :
    (enter enum enums).map (·.name) =
      if enum.name ∈ enums.map (·.name) then enums.map (·.name)
      else enums.map (·.name) ++ [enum.name] := by
  induction enums with
  | nil => simp [enter]
  | cons first rest ih =>
    by_cases h : first.name = enum.name
    · simp [enter, h]
    · have h' : enum.name ≠ first.name := fun eq => h eq.symm
      simp only [enter, if_neg h, List.map_cons, ih, List.mem_cons, h', false_or]
      split <;> simp

theorem enter_distinct {enum : Enumeration} {enums : List Enumeration}
    (h : (enums.map (·.name)).Nodup) : ((enter enum enums).map (·.name)).Nodup := by
  rw [map_name_enter]
  split
  · exact h
  · next new =>
    refine List.nodup_append.2 ⟨h, by simp, fun a mem b mem' eq => new ?_⟩
    rw [List.mem_singleton.1 mem'] at eq
    exact eq ▸ mem

/-- The catalogue without enumerations. -/
def empty : Catalogue := ⟨[], .nil⟩

instance : Inhabited Catalogue := ⟨empty⟩

/-- The catalogue with one more declaration. -/
def insert (catalogue : Catalogue) (enum : Enumeration) : Catalogue :=
  ⟨enter enum catalogue.enums, enter_distinct catalogue.distinct⟩

/-- The catalogue of a list of declarations. -/
def ofList (enums : List Enumeration) : Catalogue :=
  enums.foldl insert empty

/-- The names, in catalogue order. -/
def names (catalogue : Catalogue) : List String :=
  catalogue.enums.map (·.name)

/-- The enumeration of that name. -/
def find? (catalogue : Catalogue) (name : String) : Option Enumeration :=
  Enumeration.find? catalogue.enums name

/-- The catalogue holds no enumeration. -/
def isEmpty (catalogue : Catalogue) : Bool :=
  catalogue.enums.isEmpty

end Catalogue

end SchemaDto
