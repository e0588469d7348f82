/-
# Generated names

Every model has three classes, one for each purpose of its data: creating a
record, updating one and reading one.  Each class lives in a module of its own.
-/
import SchemaDto.Text.Basic
import SchemaDto.Text.Case

namespace SchemaDto

/-- What a generated class is for. -/
inductive Purpose where
  | create
  | update
  | read
deriving DecidableEq, Repr

namespace Purpose

/-- Every purpose, in the order in which the classes are written. -/
def all : List Purpose := [create, update, read]

/-- The class for a model. -/
def className : Purpose → String → String
  | create, model => "Create" ++ model ++ "Dto"
  | update, model => "Update" ++ model ++ "Dto"
  | read, model => model ++ "Dto"

/-- The word that file names begin with. -/
def verb : Purpose → String
  | create => "create"
  | update => "update"
  | read => "read"

/-- The module of the class for a model. -/
def moduleName (purpose : Purpose) (model : String) : String :=
  purpose.verb ++ "-" ++ Text.kebab model ++ ".dto"

/-- The file of the class for a model. -/
def fileName (purpose : Purpose) (model : String) : String :=
  purpose.moduleName model ++ ".ts"

end Purpose

/-- The module that holds the enumerations, in the output root. -/
def enumsModule : String := "enums"

/-- The file of that module. -/
def enumsFileName : String := "enums.ts"

/-- The file of a barrel in any folder. -/
def barrelFileName : String := "index.ts"

/-- The number of folders in a path; empty segments do not count. -/
def folderDepth (path : String) : Nat :=
  ((Text.segments path).filter (· != "")).length

/-- The way from a folder to a module of the output root, as an import writes
it. -/
def rootSpecifier (folder : Option String) (module : String) : String :=
  match folder.elim 0 folderDepth with
  | 0 => "./" ++ module
  | depth => String.join (List.replicate depth "../") ++ module

end SchemaDto
