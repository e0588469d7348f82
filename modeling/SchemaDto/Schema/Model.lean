/-
# Documents and models

A schema as it is declared: models with their fields, and enumerations.  Only
what generation needs is kept of a document.

Resolving a document gives the models as generation sees them: whether a field
may be missing or `null`, which enumeration or relation it refers to, is settled.
A missing value is `null` for built-in types other than `Boolean`, and is left out
otherwise; references to enumerations are looked up among the declarations of the
document.
-/
import SchemaDto.Schema.Catalogue

namespace SchemaDto

/-! ## Declarations -/

/-- What the type of a declared field refers to. -/
inductive Kind where
  /-- A built-in type such as `String` or `Int`. -/
  | scalar
  /-- Another model, or a composite type. -/
  | object
  /-- A declared enumeration. -/
  | enumeration
  /-- A type of the database that the schema language does not know. -/
  | unsupported
deriving DecidableEq, Repr, Inhabited

/-- A field as declared. -/
structure FieldDecl where
  name : String
  kind : Kind := .scalar
  /-- A built-in type, or the name of an enumeration or a model. -/
  type : String
  isList : Bool := false
  isRequired : Bool := false
  /-- The field identifies a record. -/
  isId : Bool := false
  /-- The field holds the time of the last update, where the document says so. -/
  isUpdatedAt : Option Bool := none
  relationName : Option String := none
  /-- The field has a default value; the value itself is of no interest. -/
  hasDefault : Bool := false
deriving DecidableEq, Repr, Inhabited

/-- A model as declared, with its fields in order. -/
structure ModelDecl where
  name : String
  fields : List FieldDecl := []
deriving DecidableEq, Repr, Inhabited

/-- A schema document: models and enumerations in declaration order. -/
structure Document where
  models : List ModelDecl := []
  enums : List Enumeration := []
deriving DecidableEq, Repr, Inhabited

/-! ## Resolved models -/

/-- How many records a relation leads to. -/
inductive Cardinality where
  | one
  | many
deriving DecidableEq, Repr

/-- A resolved field. -/
structure Field where
  name : String
  /-- A built-in type, or the name of an enumeration or a model. -/
  type : String
  /-- The field may be missing. -/
  isOptional : Bool := false
  /-- The field may hold `null`. -/
  isNullable : Bool := false
  isArray : Bool := false
  isUpdatedAt : Bool := false
  hasDefault : Bool := false
  isId : Bool := false
  isRelation : Bool := false
  relationName : Option String := none
  cardinality : Option Cardinality := none
  /-- The enumeration that the field refers to. -/
  enumName : Option String := none
  /-- The values of that enumeration, if it is declared. -/
  enumValues : Option (List String) := none
deriving DecidableEq, Repr, Inhabited

/-- A resolved model: its fields in declaration order, and the enumerations that
they refer to, each once, in order of first use. -/
structure Model where
  name : String
  fields : List Field := []
  enums : List Enumeration := []
deriving DecidableEq, Repr, Inhabited

/-- A resolved schema: models and enumerations in declaration order. -/
structure Schema where
  models : List Model := []
  enums : List Enumeration := []
deriving DecidableEq, Repr, Inhabited

/-! ## Resolving -/

/-- The built-in type whose values are never `null`. -/
def booleanTag : String := "Boolean"

/-- A declared field, with enumerations looked up in `enums`.  A reference to an
undeclared enumeration is kept, without values. -/
def FieldDecl.resolve (enums : List Enumeration) (decl : FieldDecl) : Field where
  name := decl.name
  type := decl.type
  isOptional := !decl.isRequired
  isNullable := decl.kind == .scalar && decl.type != booleanTag && !decl.isRequired
  isArray := decl.isList
  isUpdatedAt := decl.isUpdatedAt.getD false
  hasDefault := decl.hasDefault
  isId := decl.isId
  isRelation := decl.relationName.isSome
  relationName := if decl.kind = .object then decl.relationName else none
  cardinality := if decl.kind = .object then some (if decl.isList then .many else .one) else none
  enumName := if decl.kind = .enumeration then some decl.type else none
  enumValues :=
    if decl.kind = .enumeration then (Enumeration.find? enums decl.type).map (·.values) else none

/-- Adds the declaration of a name to the enumerations met so far, unless the
name is met already or undeclared. -/
def Enumeration.meet (enums : List Enumeration) (met : List Enumeration) (name : String) :
    List Enumeration :=
  if met.any (·.name == name) then met else met ++ (find? enums name).toList

/-- The declared enumerations that a list of fields refers to, each once, in
order of first use. -/
def Field.enumsOf (enums : List Enumeration) (fields : List Field) : List Enumeration :=
  (fields.filterMap (·.enumName)).foldl (Enumeration.meet enums) []

/-- A declared model, with enumerations looked up in `enums`. -/
def ModelDecl.resolve (enums : List Enumeration) (decl : ModelDecl) : Model :=
  let fields := decl.fields.map (FieldDecl.resolve enums)
  ⟨decl.name, fields, Field.enumsOf enums fields⟩

/-- The resolved schema of a document. -/
def Document.resolve (document : Document) : Schema :=
  ⟨document.models.map (ModelDecl.resolve document.enums), document.enums⟩

end SchemaDto
