/-
# Properties

A property of a generated class: two decorators, for the API description and
for validation, and the declaration.
-/
import SchemaDto.Typing.Basic

namespace SchemaDto

/-- Whether the API description asks for a value. -/
inductive Presence where
  | required
  | optional
deriving DecidableEq, Repr

/-- The decorator that says so. -/
def Presence.decorator : Presence → String
  | required => "ApiProperty"
  | optional => "ApiPropertyOptional"

/-- An entry in the options of the API decorator. -/
inductive SwaggerOption where
  | typeName (name : String)
  | typeReference (enumName : String)
  | isArray
  | enumReference (enumName : String)
  | enumName (name : String)
  | format (name : String)
  | additionalProperties
  | nullable
  | readOnly
deriving DecidableEq, Repr

/-- The entry as written. -/
def SwaggerOption.render : SwaggerOption → String
  | typeName name => "type: '" ++ name ++ "'"
  | typeReference name => "type: " ++ name
  | isArray => "isArray: true"
  | enumReference name => "enum: " ++ name
  | enumName name => "enumName: '" ++ name ++ "'"
  | format name => "format: '" ++ name ++ "'"
  | additionalProperties => "additionalProperties: true"
  | nullable => "nullable: true"
  | readOnly => "readOnly: true"

/-- The entries that say what the values are: arrays give no format, and
enumerations are referred to by name. -/
def Typing.typeOptions (typing : Typing) : List SwaggerOption :=
  match typing.isArray, typing.enumName with
  | true, some name => [.typeReference name, .isArray]
  | true, none => [.typeName typing.swaggerType, .isArray]
  | false, some name => [.enumReference name, .enumName name]
  | false, none =>
    .typeName typing.swaggerType :: (typing.swaggerFormat.map .format).toList ++
      if typing.swaggerType = objectType then [.additionalProperties] else []

/-- The field is read-only on its own account. -/
def Field.isReadOnly (field : Field) : Bool :=
  field.isId || field.isUpdatedAt

/-- The options of the API decorator. -/
def Typing.swaggerOptions (typing : Typing) (field : Field) (readOnly : Bool) :
    List SwaggerOption :=
  typing.typeOptions ++
    (if typing.isNullable then [.nullable] else []) ++
    (if readOnly || field.isReadOnly then [.readOnly] else [])

/-- The TypeScript type of a property. -/
structure TsType where
  base : String
  isArray : Bool
  isNullable : Bool
deriving DecidableEq, Repr

/-- The type as written. -/
def TsType.render (type : TsType) : String :=
  type.base ++ (if type.isArray then "[]" else "") ++ (if type.isNullable then " | null" else "")

/-- The type of a property for a field. -/
def Typing.type (typing : Typing) : TsType :=
  ⟨typing.tsType, typing.isArray, typing.isNullable⟩

/-- The name of a property is marked where it may be missing but not `null`. -/
def Typing.isMarked (typing : Typing) : Bool :=
  typing.isOptional && !typing.isNullable

/-- A call of a validator. -/
structure Check where
  validator : Validator
  each : Option Bool
deriving DecidableEq, Repr

/-- The options of the call. -/
def Check.options (check : Check) : Option String :=
  check.each.map fun each => "\x7b each: " ++ (if each then "true" else "false") ++ " \x7d"

/-- The call as written. -/
def Check.render (check : Check) : String :=
  "@" ++ check.validator.name ++ "(" ++ check.options.getD "" ++ ")"

/-- A property of a generated class. -/
structure Property where
  presence : Presence
  options : List SwaggerOption
  check : Check
  name : String
  /-- The name carries a question mark. -/
  isMarked : Bool
  type : TsType
deriving DecidableEq, Repr

namespace Property

/-- The API decorator as written. -/
def apiDecorator (property : Property) : String :=
  "@" ++ property.presence.decorator ++ "(\x7b " ++
    ", ".intercalate (property.options.map SwaggerOption.render) ++ " \x7d)"

/-- The decorators as written, outermost first. -/
def decorators (property : Property) : List String :=
  [property.apiDecorator, property.check.render]

/-- The name as declared. -/
def label (property : Property) : String :=
  property.name ++ (if property.isMarked then "?" else "")

/-- The property as the lines of a class body. -/
def render (property : Property) : String :=
  "\n  ".intercalate
    (property.decorators ++ [property.label ++ ": " ++ property.type.render ++ ";"])

end Property

/-- The property for a field of known appearance. -/
def Typing.property (typing : Typing) (field : Field) (readOnly : Bool) : Property where
  presence := if typing.isOptional || typing.isNullable then .optional else .required
  options := typing.swaggerOptions field readOnly
  check := ⟨typing.validator, typing.each⟩
  name := field.name
  isMarked := typing.isMarked
  type := typing.type

/-- The property for a field. -/
def Catalogue.property (catalogue : Catalogue) (field : Field) (readOnly : Bool) :
    Except UnknownEnum Property :=
  (catalogue.typing field).map (·.property field readOnly)

end SchemaDto
