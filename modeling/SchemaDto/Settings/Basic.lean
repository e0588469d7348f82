/-
# Settings

The options of a run with their defaults.  Some are accepted and checked but
have no influence on the output yet: how relations, dates and JSON values are
represented, the spelling of file names, the use of field names to choose
validators, extra fields for reading, and clearing the output folder.  What a run
says about input that it does not use is a warning; it never changes the outcome.
-/
import SchemaDto.Order.Dict

namespace SchemaDto

/-- How relations are represented. -/
inductive Relations where
  | omit
  | ids
  | nested
deriving DecidableEq, Repr

/-- How points in time are represented. -/
inductive Dates where
  | isoString
  | date
deriving DecidableEq, Repr

/-- How file names are spelled. -/
inductive FileNaming where
  | kebab
  | camel
  | pascal
deriving DecidableEq, Repr

/-- Where files go: all into one folder, or into folders by domain. -/
inductive Layout where
  | flat
  | domain
deriving DecidableEq, Repr

/-- The names of the values, in the order in which messages list them. -/
def Relations.names : List (String × Relations) :=
  [("omit", .omit), ("ids", .ids), ("nested", .nested)]

@[inherit_doc Relations.names]
def Dates.names : List (String × Dates) :=
  [("iso-string", .isoString), ("date", .date)]

@[inherit_doc Relations.names]
def FileNaming.names : List (String × FileNaming) :=
  [("kebab", .kebab), ("camel", .camel), ("pascal", .pascal)]

@[inherit_doc Relations.names]
def Layout.names : List (String × Layout) :=
  [("flat", .flat), ("domain", .domain)]

/-- The name of a value in a list of names. -/
def nameIn {α : Type} [DecidableEq α] (names : List (String × α)) (value : α) : String :=
  ((names.find? (·.2 == value)).map (·.1)).getD ""

/-- The settings of a run. -/
structure Settings where
  /-- Write barrels. -/
  emitBarrel : Bool := true
  relations : Relations := .ids
  dates : Dates := .isoString
  /-- The TypeScript type of JSON values. -/
  jsonType : String := "Record<string, unknown>"
  fileNaming : FileNaming := .kebab
  /-- Choose validators by field names. -/
  heuristics : Bool := true
  layout : Layout := .flat
  /-- The path of each model that has a folder of its own. -/
  domainMapping : Option (Dict String) := none
  /-- The fields that the classes of a model leave out. -/
  omitFields : Option (Dict (List String)) := none
  /-- Extra fields of the class for reading. -/
  readInclude : Option (Dict (List String)) := none
  /-- Clear the output folder first. -/
  clean : Bool := false
deriving DecidableEq, Repr, Inhabited

/-- The fields that the classes of a model leave out. -/
def Settings.omitted (settings : Settings) (model : String) : List String :=
  (settings.omitFields.bind (·.get? model)).getD []

/-! ## Warnings -/

/-- A remark on an option. -/
inductive Warning where
  /-- A yes-or-no option holds something else. -/
  | notBoolean (option value : String)
  /-- An option holds none of its names. -/
  | unrecognized (option value : String)
  /-- A record option holds no such record. -/
  | unreadable (option : String)
  /-- The path of a model begins with a slash, or is empty. -/
  | noDomain (model path : String)
deriving DecidableEq, Repr

/-- The wording of the remark. -/
def Warning.message : Warning → String
  | notBoolean .. => "expected `true` or `false`, using default"
  | unrecognized .. => "unrecognized value, using default"
  | unreadable .. => "failed to parse option"
  | noDomain .. => "ignoring domain mapping without a domain segment"

end SchemaDto
