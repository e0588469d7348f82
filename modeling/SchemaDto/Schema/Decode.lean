/-
# Decoding schema documents

The JSON form of a schema document.  Members that generation does not need are
skipped.
-/
import SchemaDto.Json.Record
import SchemaDto.Schema.Model

namespace SchemaDto

open Json

/-- The kinds of fields by name. -/
def Kind.names : List (String × Kind) :=
  [("scalar", .scalar), ("object", .object), ("enum", .enumeration), ("unsupported", .unsupported)]

/-- The kind of that name; names outside the list are unsupported. -/
def Kind.ofName (name : String) : Kind := (names.lookup name).getD .unsupported

/-- The JSON form of a field. -/
def FieldDecl.record : Record FieldDecl where
  name := "Field"
  blank := { name := "", type := "" }
  fields :=
    [(RecordField.of "name" Decode.text fun value field => { field with name := value }).required,
     .of "kind" (Decode.variant fun name => .ok (Kind.ofName name)) fun value field =>
       { field with kind := value },
     (RecordField.of "type" Decode.text fun value field => { field with type := value }).required,
     .of "isList" Decode.boolean fun value field => { field with isList := value },
     .of "isRequired" Decode.boolean fun value field => { field with isRequired := value },
     .of "isId" Decode.boolean fun value field => { field with isId := value },
     .of "isUpdatedAt" (Decode.nullable Decode.boolean) fun value field =>
       { field with isUpdatedAt := value },
     .of "relationName" (Decode.nullable Decode.text) fun value field =>
       { field with relationName := value },
     .of "default" Decode.presence fun value field => { field with hasDefault := value }]

/-- The JSON form of a model. -/
def ModelDecl.record : Record ModelDecl where
  name := "Model"
  blank := { name := "" }
  fields :=
    [(RecordField.of "name" Decode.text fun value model => { model with name := value }).required,
     .of "fields" (Decode.list FieldDecl.record.decoder) fun value model =>
       { model with fields := value }]

/-- The JSON form of an enumeration's value. -/
def Enumeration.valueRecord : Record String where
  name := "EnumValue"
  blank := ""
  fields := [(RecordField.of "name" Decode.text fun value _ => value).required]

/-- The JSON form of an enumeration. -/
def Enumeration.record : Record Enumeration where
  name := "DatamodelEnum"
  blank := ⟨"", []⟩
  fields :=
    [(RecordField.of "name" Decode.text fun value enum => { enum with name := value }).required,
     .of "values" (Decode.list valueRecord.decoder) fun value enum => { enum with values := value }]

/-- The JSON form of the declarations in a document. -/
def Document.declarationsRecord : Record Document where
  name := "Datamodel"
  blank := {}
  fields :=
    [.of "models" (Decode.list ModelDecl.record.decoder) fun value document =>
       { document with models := value },
     .of "enums" (Decode.list Enumeration.record.decoder) fun value document =>
       { document with enums := value }]

/-- The JSON form of a document: its declarations are one member of it. -/
def Document.record : Record Document where
  name := "Document"
  blank := {}
  fields := [.of "datamodel" declarationsRecord.decoder fun value _ => value]

end SchemaDto
