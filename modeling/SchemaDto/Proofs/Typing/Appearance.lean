/-
# What an appearance says of its field

A field appears as a built-in type or as an enumeration of the catalogue
(`typing_cases`).  Either way its appearance carries over whether it is a list, whether it
may be missing or `null`, and which enumeration it refers to; everything else comes from
the table of built-in types.
-/
import SchemaDto.Proofs.Schema.Catalogue
import SchemaDto.Typing.Basic

namespace SchemaDto

/-- The validator of a field: enumerations have one of their own. -/
def Field.validator (field : Field) : Validator :=
  if field.enumName.isSome then .enumeration else field.scalarValidator

/-- The appearance says of the field what there is to say. -/
structure Typing.Carries (typing : Typing) (field : Field) : Prop where
  isArray : typing.isArray = field.isArray
  isOptional : typing.isOptional = field.isOptional
  isNullable : typing.isNullable = field.isNullable
  validator : typing.validator = field.validator
  each : typing.each = if field.isArray then some true else none
  enumName : typing.enumName = field.enumName
  tsType : typing.tsType = field.enumName.getD (Scalar.ofTag field.type).tsType
  /-- Enumerations are not described by a type and a format. -/
  scalar : field.enumName = none →
    typing.swaggerType = (Scalar.ofTag field.type).swaggerType ∧
      typing.swaggerFormat = (Scalar.ofTag field.type).swaggerFormat

namespace Catalogue

variable {catalogue : Catalogue} {field : Field} {typing : Typing}

/-- A field appears as a built-in type or as an enumeration of the catalogue. -/
theorem typing_cases (h : catalogue.typing field = .ok typing) :
    (field.enumName = none ∧ typing = field.scalarTyping) ∨
    ∃ enum, enum.name ∈ catalogue.names ∧ field.enumName = some enum.name ∧
      typing = field.enumTyping enum := by
  unfold Catalogue.typing at h
  split at h
  · next none =>
      cases h
      exact .inl ⟨none, rfl⟩
  · next name some =>
      split at h
      · next enum found =>
          cases h
          have named : enum.name = name := by simpa using List.find?_some found
          exact .inr ⟨enum, mem_names_of_find? found, named ▸ some, rfl⟩
      · cases h

theorem carries_of_typing (h : catalogue.typing field = .ok typing) : typing.Carries field := by
  rcases typing_cases h with ⟨none, rfl⟩ | ⟨enum, -, some, rfl⟩
  · exact
      { isArray := rfl
        isOptional := rfl
        isNullable := rfl
        validator := by rw [Field.validator, none]; rfl
        each := rfl
        enumName := none.symm
        tsType := by rw [none]; rfl
        scalar := fun _ => ⟨rfl, rfl⟩ }
  · exact
      { isArray := rfl
        isOptional := rfl
        isNullable := rfl
        validator := by rw [Field.validator, some]; rfl
        each := rfl
        enumName := some.symm
        tsType := by rw [some]; rfl
        scalar := fun none => by cases some.symm.trans none }

theorem mem_names_of_typing (h : catalogue.typing field = .ok typing) {name : String}
    (enumName : typing.enumName = some name) : name ∈ catalogue.names := by
  rcases typing_cases h with ⟨-, rfl⟩ | ⟨enum, declared, -, rfl⟩
  · cases enumName
  · cases enumName
    exact declared

end Catalogue

end SchemaDto
