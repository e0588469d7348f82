/-
# Requests

A request asks for the files of a schema: a document with an options block.
Running it resolves the document, reads the options and generates the files.
-/
import SchemaDto.Output
import SchemaDto.Schema.Decode
import SchemaDto.Schema.Model
import SchemaDto.Settings.Options

namespace SchemaDto

/-- A request. -/
structure Request where
  document : Document := {}
  options : Options := .empty
deriving DecidableEq

/-- The JSON form of a request. -/
def Request.record : Json.Record Request where
  name := "GenerateRequest"
  blank := {}
  fields :=
    [(Json.RecordField.of "dmmf" Document.record.decoder fun value request =>
       { request with document := value }).required,
     .of "config" Options.decoder fun value request => { request with options := value }]

/-- Why a request has no files. -/
inductive Refusal where
  /-- The text is no request. -/
  | undecodable (fault : Json.Fault)
  /-- A field refers to an enumeration that is not declared. -/
  | unknownEnum (error : UnknownEnum)
deriving DecidableEq

/-- The wording of a refusal. -/
def Refusal.message : Refusal → String
  | undecodable .malformed => "Decode error"
  | undecodable (.mismatch reason) => "Decode error: " ++ reason.message
  | unknownEnum error => error.message

namespace Request

/-- The settings of a request. -/
def settings (request : Request) : Settings := request.options.settings

/-- The generator of a request. -/
def generator (request : Request) : Generator :=
  .ofEnums request.settings request.document.resolve.enums

/-- The files of a request. -/
def run (request : Request) : Except UnknownEnum (List File) :=
  request.generator.generate request.document.resolve.models

/-- The remarks on a request: those on its options, then those on the placement
of models. -/
def warnings (request : Request) : List Warning :=
  request.options.warnings ++ request.generator.placement.warnings

/-- The request that a text holds. -/
def ofBytes? (bytes : List UInt8) : Except Json.Fault Request :=
  Json.decode record.decoder bytes

end Request

/-- The files for a text that holds a request. -/
def generateFrom (bytes : List UInt8) : Except Refusal (List File) :=
  match Request.ofBytes? bytes with
  | .error fault => .error (.undecodable fault)
  | .ok request =>
    match request.run with
    | .ok files => .ok files
    | .error error => .error (.unknownEnum error)

end SchemaDto
