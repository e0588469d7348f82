/-
# Class files

The file of one generated class: its imports and its properties.  A class for
creating holds the fields that a caller may set, a class for reading every
field that is no relation, and a class for updating is the first one with every
property made optional.
-/
import SchemaDto.Emit.Property
import SchemaDto.Emit.Purpose
import SchemaDto.Order.Dict

namespace SchemaDto

/-! ## Imports -/

/-- An import of names from a module. -/
structure Import where
  names : List String
  source : String
deriving DecidableEq, Repr

/-- The statement. -/
def Import.render (statement : Import) : String :=
  "import \x7b " ++ ", ".intercalate statement.names ++ " \x7d from '" ++ statement.source ++ "';"

/-- The import block of a file. -/
def Import.renderAll (statements : List Import) : String :=
  "\n".intercalate (statements.map Import.render)

/-! ## Files -/

/-- A file with one class. -/
structure ClassFile where
  imports : List Import
  name : String
  /-- The class whose properties are taken over, each made optional. -/
  partialOf : Option String := none
  properties : List Property := []
deriving DecidableEq, Repr

namespace ClassFile

/-- The body of the class; a class without properties is written in one line. -/
def body (file : ClassFile) : String :=
  if file.properties.isEmpty then "\x7b\x7d"
  else "\x7b\n  " ++ "\n\n  ".intercalate (file.properties.map Property.render) ++ "\n\x7d"

/-- The clause that takes over the properties of another class. -/
def clause (file : ClassFile) : String :=
  file.partialOf.elim "" fun other => "extends PartialType(" ++ other ++ ") "

/-- The text of the file. -/
def render (file : ClassFile) : String :=
  Import.renderAll file.imports ++ "\n\nexport class " ++ file.name ++ " " ++
    file.clause ++ file.body ++ "\n"

end ClassFile

/-! ## The fields of a class -/

/-- Fields that the database sets: a class for creating never holds them. -/
def managedNames : List String := ["id", "createdAt", "updatedAt"]

/-- The field belongs to the class for reading. -/
def Field.isReadable (omitted : List String) (field : Field) : Bool :=
  !omitted.contains field.name && !field.isRelation

/-- The field belongs to the class for creating. -/
def Field.isCreatable (omitted : List String) (field : Field) : Bool :=
  !managedNames.contains field.name && !omitted.contains field.name && !field.isUpdatedAt &&
    !field.isRelation

/-- The fields of the class for creating, in declaration order. -/
def Model.createFields (model : Model) (omitted : List String) : List Field :=
  model.fields.filter (Field.isCreatable omitted)

/-- The fields of the class for reading, in declaration order. -/
def Model.readFields (model : Model) (omitted : List String) : List Field :=
  model.fields.filter (Field.isReadable omitted)

/-! ## The imports of a class -/

/-- Where the decorators of the API description come from. -/
def swaggerSource : String := "@nestjs/swagger"

/-- Where the validators come from. -/
def validatorSource : String := "class-validator"

/-- An import of names, unless there are none. -/
def Import.ofNames (names : List String) (source : String) : List Import :=
  if names.isEmpty then [] else [⟨names, source⟩]

/-- The names of the validators that a class imports, in ascending order.  A
JSON field always brings in the validator of objects. -/
def validatorNames (fields : List Field) (typings : List Typing) : List String :=
  ascending (typings.map (·.validator.name) ++
    if fields.any (·.type == jsonTag) then [Validator.object.name] else [])

/-- The enumerations that a class imports, in ascending order. -/
def importedEnums (typings : List Typing) : List String :=
  ascending (typings.filterMap (·.enumName))

/-- The imports of a class in a folder. -/
def importsOf (fields : List Field) (typings : List Typing) (folder : Option String) :
    List Import :=
  [⟨[Presence.required.decorator, Presence.optional.decorator], swaggerSource⟩] ++
    Import.ofNames (validatorNames fields typings) validatorSource ++
    Import.ofNames (importedEnums typings) (rootSpecifier folder enumsModule)

/-! ## The classes of a model -/

namespace Catalogue

/-- The appearances of fields; the first field without one decides the error. -/
def typings (catalogue : Catalogue) (fields : List Field) : Except UnknownEnum (List Typing) :=
  fields.mapM catalogue.typing

/-- The imports of a class with these fields. -/
def imports (catalogue : Catalogue) (fields : List Field) (folder : Option String) :
    Except UnknownEnum (List Import) :=
  (catalogue.typings fields).map fun typings => importsOf fields typings folder

/-- The file of a class with these fields. -/
def classFile (catalogue : Catalogue) (name : String) (fields : List Field) (readOnly : Bool)
    (folder : Option String) : Except UnknownEnum ClassFile :=
  (catalogue.typings fields).map fun typings =>
    { imports := importsOf fields typings folder
      name := name
      properties := (typings.zip fields).map fun (typing, field) =>
        typing.property field readOnly }

/-- The file of the class for creating a record. -/
def createClass (catalogue : Catalogue) (model : Model) (omitted : List String)
    (folder : Option String) : Except UnknownEnum ClassFile :=
  catalogue.classFile (Purpose.create.className model.name) (model.createFields omitted) false
    folder

/-- The file of the class for reading a record: every property is read-only. -/
def readClass (catalogue : Catalogue) (model : Model) (omitted : List String)
    (folder : Option String) : Except UnknownEnum ClassFile :=
  catalogue.classFile (Purpose.read.className model.name) (model.readFields omitted) true folder

end Catalogue

/-- The file of the class for updating a record. -/
def updateClass (model : String) : ClassFile where
  imports :=
    [⟨["PartialType"], swaggerSource⟩,
     ⟨[Purpose.create.className model], "./" ++ Purpose.create.moduleName model⟩]
  name := Purpose.update.className model
  partialOf := some (Purpose.create.className model)

end SchemaDto
