/-
# Types of fields

How a field appears in a generated class: its TypeScript type, its type and
format in the API description, and its validator.  Built-in types come from a
fixed table, enumerations from the catalogue.
-/
import SchemaDto.Schema.Model
import SchemaDto.Typing.Validator

namespace SchemaDto

/-- The appearance of a built-in type. -/
structure Scalar where
  tsType : String
  swaggerType : String
  swaggerFormat : Option String
  validator : Validator
deriving DecidableEq, Repr

/-- The built-in type of texts, whose validator depends on the field name. -/
def textTag : String := "String"

/-- The built-in type of JSON values. -/
def jsonTag : String := "Json"

/-- The API type of JSON values. -/
def objectType : String := "object"

namespace Scalar

/-- The appearance of types outside the table. -/
def unknown : Scalar := ⟨"any", "string", none, .string⟩

/-- The table of built-in types. -/
def table : List (String × Scalar) :=
  [(textTag, ⟨"string", "string", none, .string⟩),
   ("Int", ⟨"number", "integer", some "int32", .integer⟩),
   ("BigInt", ⟨"string", "string", some "bigint", .string⟩),
   ("Float", ⟨"number", "number", some "float", .number⟩),
   ("Decimal", ⟨"string", "string", some "decimal", .string⟩),
   ("Boolean", ⟨"boolean", "boolean", none, .boolean⟩),
   ("DateTime", ⟨"string", "string", some "date-time", .dateString⟩),
   (jsonTag, ⟨"Record<string, unknown>", objectType, some "object", .object⟩),
   ("Bytes", ⟨"string", "string", some "byte", .string⟩)]

/-- The appearance of a built-in type. -/
def ofTag (tag : String) : Scalar :=
  (table.lookup tag).getD unknown

end Scalar

/-- The appearance of one field. -/
structure Typing where
  /-- The TypeScript type, without the marks of arrays and of `null`. -/
  tsType : String
  swaggerType : String
  swaggerFormat : Option String := none
  validator : Validator
  /-- Whether the validator looks at each element; absent where it is called
  without options. -/
  each : Option Bool := none
  isArray : Bool := false
  isOptional : Bool := false
  isNullable : Bool := false
  enumName : Option String := none
  enumValues : Option (List String) := none
deriving DecidableEq, Repr

/-- A field refers to an enumeration that the catalogue does not hold. -/
structure UnknownEnum where
  name : String
deriving DecidableEq, Repr

/-- The wording of the error. -/
def UnknownEnum.message (error : UnknownEnum) : String :=
  "Enum " ++ error.name ++ " not found"

/-- The validator of a field of a built-in type: texts are judged by their field
name, other types by the table. -/
def Field.scalarValidator (field : Field) : Validator :=
  if field.type = textTag then Validator.ofFieldName field.name
  else (Scalar.ofTag field.type).validator

/-- The appearance of a field of a built-in type. -/
def Field.scalarTyping (field : Field) : Typing :=
  let scalar := Scalar.ofTag field.type
  { tsType := scalar.tsType
    swaggerType := scalar.swaggerType
    swaggerFormat := scalar.swaggerFormat
    validator := field.scalarValidator
    each := if field.isArray then some true else none
    isArray := field.isArray
    isOptional := field.isOptional
    isNullable := field.isNullable }

/-- The appearance of a field that refers to an enumeration. -/
def Field.enumTyping (field : Field) (enum : Enumeration) : Typing :=
  { tsType := enum.name
    swaggerType := enum.name
    validator := .enumeration
    each := if field.isArray then some true else none
    isArray := field.isArray
    isOptional := field.isOptional
    isNullable := field.isNullable
    enumName := some enum.name
    enumValues := some enum.values }

/-- The appearance of a field.  Only a reference to an enumeration outside the
catalogue has none. -/
def Catalogue.typing (catalogue : Catalogue) (field : Field) : Except UnknownEnum Typing :=
  match field.enumName with
  | none => .ok field.scalarTyping
  | some name =>
    match catalogue.find? name with
    | some enum => .ok (field.enumTyping enum)
    | none => .error ⟨name⟩

end SchemaDto
