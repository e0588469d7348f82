/-
# Names of exported classes

The class for reading takes the name of its model, the other two put a word in
front of it.  So one of two different models takes the name of a class of the other
exactly if it is called like the other one with such a word in front.  The barrels
of both layouts export the classes of the models and no others; hence no identifier
is exported twice, unless two models are called so (`nodup_classes_iff`).
-/
import Mathlib.Data.List.Pairwise
import SchemaDto.Proofs.Output.Barrels

namespace SchemaDto

/-! ## Classes of two models -/

namespace Purpose

/-- The name of a class without its ending. -/
def stem : Purpose → String → String
  | create, model => "Create" ++ model
  | update, model => "Update" ++ model
  | read, model => model

theorem className_eq_iff {a b : Purpose} {model other : String} :
    a.className model = b.className other ↔ a.stem model = b.stem other := by
  have ending : ∀ (purpose : Purpose) (model : String),
      purpose.className model = purpose.stem model ++ "Dto" := by
    intro purpose model
    cases purpose <;> rfl
  rw [ending, ending, String.append_left_inj]

end Purpose

/-- The second name is the first one with the word of another purpose in front. -/
def Prefixed (model other : String) : Prop :=
  other = "Create" ++ model ∨ other = "Update" ++ model

theorem Prefixed.ne {model other : String} (h : Prefixed model other) : model ≠ other := by
  rintro rfl
  rcases h with eq | eq
  · have lengths := congrArg String.length eq
    simp at lengths
  · have lengths := congrArg String.length eq
    simp at lengths

theorem Prefixed.exists_stem {model other : String} (h : Prefixed model other) :
    ∃ purpose : Purpose, purpose.stem model = Purpose.read.stem other := by
  rcases h with rfl | rfl
  · exact ⟨.create, rfl⟩
  · exact ⟨.update, rfl⟩

/-- Classes have one name only if they are the same, or if one of the models takes
the name of a class of the other. -/
theorem Purpose.stem_cases {a b : Purpose} {model other : String}
    (h : a.stem model = b.stem other) :
    (a = b ∧ model = other) ∨ Prefixed model other ∨ Prefixed other model := by
  cases a with
  | create =>
      cases b with
      | create => exact .inl ⟨rfl, (String.append_right_inj _).mp h⟩
      | update =>
          have lists := congrArg String.toList h
          simp [stem] at lists
      | read => exact .inr (.inl (.inl h.symm))
  | update =>
      cases b with
      | create =>
          have lists := congrArg String.toList h
          simp [stem] at lists
      | update => exact .inl ⟨rfl, (String.append_right_inj _).mp h⟩
      | read => exact .inr (.inl (.inr h.symm))
  | read =>
      cases b with
      | create => exact .inr (.inr (.inl h))
      | update => exact .inr (.inr (.inr h))
      | read => exact .inl ⟨rfl, h⟩

/-! ## Classes of a list of models -/

/-- The names of the classes of a model. -/
def classesOf (model : String) : List String := Purpose.all.map (·.className model)

/-- The names of the classes of models. -/
def classNames (names : List String) : List String := names.flatMap classesOf

theorem mem_classesOf {model name : String} :
    name ∈ classesOf model ↔ ∃ purpose : Purpose, purpose.className model = name := by
  simp [classesOf, Purpose.mem_all]

theorem nodup_classesOf (model : String) : (classesOf model).Nodup := by
  refine Purpose.nodup_all.map fun a b eq => ?_
  rcases Purpose.stem_cases (Purpose.className_eq_iff.mp eq) with ⟨same, -⟩ | clash | clash
  · exact same
  · exact absurd rfl clash.ne
  · exact absurd rfl clash.ne

theorem disjoint_classesOf_iff {model other : String} (ne : model ≠ other) :
    (classesOf model).Disjoint (classesOf other) ↔
      ¬Prefixed model other ∧ ¬Prefixed other model := by
  constructor
  · intro apart
    constructor
    · intro clash
      obtain ⟨purpose, stems⟩ := clash.exists_stem
      exact apart (mem_classesOf.mpr ⟨purpose, Purpose.className_eq_iff.mpr stems⟩)
        (mem_classesOf.mpr ⟨.read, rfl⟩)
    · intro clash
      obtain ⟨purpose, stems⟩ := clash.exists_stem
      exact apart (mem_classesOf.mpr ⟨.read, rfl⟩)
        (mem_classesOf.mpr ⟨purpose, Purpose.className_eq_iff.mpr stems⟩)
  · rintro ⟨free, free'⟩ name ofModel ofOther
    obtain ⟨a, rfl⟩ := mem_classesOf.mp ofModel
    obtain ⟨b, eq⟩ := mem_classesOf.mp ofOther
    rcases Purpose.stem_cases (Purpose.className_eq_iff.mp eq) with ⟨-, same⟩ | clash | clash
    · exact ne same.symm
    · exact free' clash
    · exact free clash

/-- The classes of different models have different names exactly if no model is called
like another one with a word in front. -/
theorem nodup_classNames_iff {names : List String} (distinct : names.Nodup) :
    (classNames names).Nodup ↔ ∀ a ∈ names, ∀ b ∈ names, ¬Prefixed a b := by
  rw [classNames, List.nodup_flatMap]
  constructor
  · rintro ⟨-, apart⟩ a isName b isName' clash
    have : Std.Symm fun a b : String => (classesOf a).Disjoint (classesOf b) :=
      ⟨fun _ _ => List.disjoint_symm⟩
    have disjoint := apart.forall isName isName' clash.ne
    exact ((disjoint_classesOf_iff clash.ne).mp disjoint).1 clash
  · intro free
    refine ⟨fun model _ => nodup_classesOf model, distinct.imp_of_mem ?_⟩
    intro a b isName isName' ne
    exact (disjoint_classesOf_iff ne).mpr ⟨free a isName b isName', free b isName' a isName⟩

/-! ## Classes that barrels export -/

/-- The class that an export names. -/
def Export.className? : Export → Option String
  | named className _ => some className
  | star _ => none

theorem filterMap_className?_ofModel (names : List String) :
    (names.flatMap Export.ofModel).filterMap Export.className? = classNames names := by
  have own : ∀ model, (Export.ofModel model).filterMap Export.className? = classesOf model :=
    fun model => rfl
  simp only [List.filterMap_flatMap, own, classNames]

theorem filterMap_className?_isNamed (exports : List Export) :
    (exports.filter Export.isNamed).filterMap Export.className? =
      exports.filterMap Export.className? := by
  rw [List.filterMap_filter]
  congr 1
  funext statement
  cases statement <;> rfl

namespace Generator

/-- The classes that the barrels export. -/
def exportedClasses (generator : Generator) (names : List String) : List String :=
  ((generator.barrels names).flatMap File.exports).filterMap Export.className?

/-- The barrels export the classes of the models, each of them once. -/
theorem exportedClasses_perm (generator : Generator) {names : List String}
    (distinct : names.Nodup) : (generator.exportedClasses names).Perm (classNames names) := by
  cases layout : generator.settings.layout with
  | flat =>
      have closing : (Export.ofEnums generator.hasEnums).filterMap Export.className? = [] := by
        cases generator.hasEnums <;> rfl
      have exports : (generator.barrels names).flatMap File.exports =
          names.flatMap Export.ofModel ++ Export.ofEnums generator.hasEnums := by
        rw [barrels_flat layout, List.flatMap_singleton]
        rfl
      rw [exportedClasses, exports, List.filterMap_append, filterMap_className?_ofModel, closing,
        List.append_nil]
  | domain =>
      rw [exportedClasses, ← filterMap_className?_isNamed, filter_isNamed_barrels layout,
        filterMap_className?_ofModel]
      have same : (generator.exportedModels names).Perm names :=
        (List.perm_ext_iff_of_nodup (generator.nodup_exportedModels names) distinct).mpr
          fun model => mem_exportedModels
      exact same.flatMap_right classesOf

end Generator

/-- For different models, the names of their classes are distinct, and no identifier is
exported twice by the barrels of either layout, exactly if no model is called
`Create` or `Update` followed by the name of a model. -/
theorem nodup_classes_iff {names : List String} (distinct : names.Nodup) :
    ((classNames names).Nodup ↔
      ∀ a ∈ names, ∀ b ∈ names, b ≠ "Create" ++ a ∧ b ≠ "Update" ++ a) ∧
    ∀ generator : Generator, (generator.exportedClasses names).Nodup ↔
      ∀ a ∈ names, ∀ b ∈ names, b ≠ "Create" ++ a ∧ b ≠ "Update" ++ a := by
  have condition : (classNames names).Nodup ↔
      ∀ a ∈ names, ∀ b ∈ names, b ≠ "Create" ++ a ∧ b ≠ "Update" ++ a := by
    simp only [nodup_classNames_iff distinct, Prefixed, not_or, ne_eq]
  refine ⟨condition, fun generator => ?_⟩
  rw [(generator.exportedClasses_perm distinct).nodup_iff, condition]

theorem shop_classes_distinct :
    (Generator.shop.exportedClasses ["User", "Profile", "Role", "Post"]).Nodup :=
  ((nodup_classes_iff (by decide)).2 Generator.shop).mpr (by decide)

/-- Both models have a class `CreateUserDto`: the first one for creating, the second one
for reading. -/
theorem classNames_clash : ["User", "CreateUser"].Nodup ∧
    ¬(classNames ["User", "CreateUser"]).Nodup ∧
    ¬((Generator.ofEnums {} []).exportedClasses ["User", "CreateUser"]).Nodup := by
  decide

end SchemaDto
