/-
# Output files

The files of a run in the order in which they are written: the enumerations,
the three classes of each model, the barrels of the folders and the root
barrel.
-/
import SchemaDto.Emit.Barrel
import SchemaDto.Emit.Class
import SchemaDto.Settings.Basic

namespace SchemaDto

/-- What a file holds. -/
inductive Content where
  | enums (catalogue : Catalogue)
  | classes (file : ClassFile)
  | barrel (exports : List Export)
deriving DecidableEq

/-- The text of a file. -/
def Content.render : Content → String
  | enums catalogue => catalogue.render
  | classes file => file.render
  | barrel exports => Export.renderAll exports

/-- A file in a folder below the output root, or in the root itself. -/
structure File where
  folder : Option String
  name : String
  content : Content
deriving DecidableEq

/-- The text of a file. -/
def File.text (file : File) : String := file.content.render

/-- A generator: settings and the enumerations that fields may refer to. -/
structure Generator where
  settings : Settings
  catalogue : Catalogue
deriving DecidableEq

namespace Generator

/-- The generator for a list of declared enumerations. -/
def ofEnums (settings : Settings) (enums : List Enumeration) : Generator :=
  ⟨settings, .ofList enums⟩

/-- Where the domain mapping places models. -/
def placement (generator : Generator) : Placement :=
  .ofMapping generator.settings.domainMapping

/-- The folder of a model's files. -/
def folder (generator : Generator) (model : String) : Option String :=
  match generator.settings.layout with
  | .flat => none
  | .domain => (generator.placement.bucket? model).map Bucket.path

/-- There are enumerations to export. -/
def hasEnums (generator : Generator) : Bool :=
  !generator.catalogue.isEmpty

/-- The file of enumerations. -/
def enumFiles (generator : Generator) : List File :=
  if generator.hasEnums then [⟨none, enumsFileName, .enums generator.catalogue⟩] else []

/-- The file of a class. -/
def classFile (generator : Generator) (model : String) (purpose : Purpose) (file : ClassFile) :
    File :=
  ⟨generator.folder model, purpose.fileName model, .classes file⟩

/-- The three files of a model. -/
def modelFiles (generator : Generator) (model : Model) : Except UnknownEnum (List File) := do
  let omitted := generator.settings.omitted model.name
  let folder := generator.folder model.name
  let create ← generator.catalogue.createClass model omitted folder
  let read ← generator.catalogue.readClass model omitted folder
  return [generator.classFile model.name .create create,
    generator.classFile model.name .update (updateClass model.name),
    generator.classFile model.name .read read]

/-- A barrel in a folder. -/
def barrelFile (folder : Option String) (exports : List Export) : File :=
  ⟨folder, barrelFileName, .barrel exports⟩

/-- The barrels below the folder of a domain. -/
def groupBarrels (group : DomainFolder) : List File :=
  barrelFile (some group.name) group.barrel ::
    group.subfolders.map fun subfolder =>
      barrelFile (some (Bucket.path ⟨group.name, subfolder.name⟩)) subfolder.barrel

/-- The models without a bucket, each once, in order of first occurrence. -/
def unbucketed (generator : Generator) (models : List String) : List String :=
  (models.filter fun model => (generator.placement.bucket? model).isNone).eraseDups

/-- The barrels of a run, the root barrel last. -/
def barrels (generator : Generator) (models : List String) : List File :=
  match generator.settings.layout with
  | .flat => [barrelFile none (flatBarrel models generator.hasEnums)]
  | .domain =>
    let groups := generator.placement.groups models
    groups.flatMap groupBarrels ++
      [barrelFile none (rootBarrel groups (generator.unbucketed models) generator.hasEnums)]

/-- The files of a run.  A reference to an enumeration outside the catalogue
ends the run. -/
def generate (generator : Generator) (models : List Model) : Except UnknownEnum (List File) := do
  let classes ← models.mapM generator.modelFiles
  let barrels :=
    if generator.settings.emitBarrel then generator.barrels (models.map (·.name)) else []
  return generator.enumFiles ++ classes.flatten ++ barrels

end Generator

end SchemaDto
