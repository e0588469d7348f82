/-
# What a class file imports

A class file imports by package name, but for two things: an updating class
imports the creating class beside it, and every other class imports its
enumerations from the output root.  Those are enumerations of the catalogue,
since a field that refers to any other has no class.
-/
import SchemaDto.Emit.Class
import SchemaDto.Proofs.Fallible
import SchemaDto.Proofs.Order.Dict
import SchemaDto.Proofs.Typing.Appearance

namespace SchemaDto

/-- The import names a module by its place, not by its package. -/
def Import.IsRelative (statement : Import) : Prop :=
  statement.source.toList.head? = some '.'

/-! ## Enumerations of a class -/

namespace Catalogue

variable {catalogue : Catalogue}

theorem mem_names_of_importedEnums {fields : List Field} {typings : List Typing}
    (h : catalogue.typings fields = .ok typings) {name : String}
    (mem : name ∈ importedEnums typings) : name ∈ catalogue.names := by
  obtain ⟨typing, inTypings, enumName⟩ := List.mem_filterMap.mp (mem_ascending.mp mem)
  obtain ⟨field, -, step⟩ := (mem_of_mapM_eq_ok h).mp inTypings
  exact mem_names_of_typing step enumName

/-- A class imports the enumerations that its fields refer to. -/
theorem importedEnums_of_typings {fields : List Field} {typings : List Typing}
    (h : catalogue.typings fields = .ok typings) :
    importedEnums typings = ascending (fields.filterMap (·.enumName)) := by
  have names : typings.map (·.enumName) = fields.map (·.enumName) :=
    map_of_mapM_eq_ok h fun field typing step => (carries_of_typing step).enumName
  have listed := congrArg (List.filterMap id) names
  rw [List.filterMap_map, List.filterMap_map] at listed
  exact congrArg ascending listed

end Catalogue

/-! ## Relative imports -/

theorem not_relative_swagger (names : List String) :
    ¬(⟨names, swaggerSource⟩ : Import).IsRelative :=
  (by decide : swaggerSource.toList.head? ≠ some '.')

theorem not_relative_validator (names : List String) :
    ¬(⟨names, validatorSource⟩ : Import).IsRelative :=
  (by decide : validatorSource.toList.head? ≠ some '.')

theorem mem_ofNames {names : List String} {source : String} {statement : Import}
    (mem : statement ∈ Import.ofNames names source) : statement = ⟨names, source⟩ := by
  unfold Import.ofNames at mem
  split at mem
  · exact absurd mem List.not_mem_nil
  · exact List.mem_singleton.mp mem

theorem eq_of_mem_importsOf {fields : List Field} {typings : List Typing}
    {folder : Option String} {statement : Import}
    (mem : statement ∈ importsOf fields typings folder) (relative : statement.IsRelative) :
    statement = ⟨importedEnums typings, rootSpecifier folder enumsModule⟩ := by
  rcases List.mem_append.mp mem with mem | mem
  · rcases List.mem_append.mp mem with mem | mem
    · rw [List.mem_singleton.mp mem] at relative
      exact absurd relative (not_relative_swagger _)
    · rw [mem_ofNames mem] at relative
      exact absurd relative (not_relative_validator _)
  · exact mem_ofNames mem

end SchemaDto
