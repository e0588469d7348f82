/-
# Enumerations and barrels

The files beside the classes.  One defines the enumerations of the catalogue:
each becomes a string enumeration whose members stand for their own names.

A barrel exports what its folder holds.  In the flat layout one barrel exports
the classes of every model.  In the domain layout the root barrel exports the
domains, the barrel of a domain its subfolders, and the barrel of a subfolder
the classes of its models; classes without a bucket stay with the root.
-/
import SchemaDto.Emit.Purpose
import SchemaDto.Placement
import SchemaDto.Schema.Catalogue

namespace SchemaDto

/-! ## The file of enumerations -/

/-- A member as written. -/
def renderEnumValue (value : String) : String :=
  "  " ++ value ++ " = '" ++ value ++ "'"

/-- The definition of an enumeration. -/
def Enumeration.render (enum : Enumeration) : String :=
  "export enum " ++ enum.name ++ " \x7b\n" ++
    ",\n".intercalate (enum.values.map renderEnumValue) ++ "\n\x7d"

/-- The text of the file. -/
def Catalogue.render (catalogue : Catalogue) : String :=
  "\n\n".intercalate (catalogue.enums.map Enumeration.render) ++ "\n"

/-- The text of the file, if there is one: an empty catalogue has none. -/
def Catalogue.render? (catalogue : Catalogue) : Option String :=
  if catalogue.isEmpty then none else some catalogue.render

/-! ## Exports -/

/-- A line of a barrel. -/
inductive Export where
  /-- One class of a module beside the barrel. -/
  | named (className moduleName : String)
  /-- Everything of a module or folder beside the barrel. -/
  | star (moduleName : String)
deriving DecidableEq, Repr

/-- The statement. -/
def Export.render : Export → String
  | named className moduleName =>
    "export \x7b " ++ className ++ " \x7d from './" ++ moduleName ++ "';"
  | star moduleName => "export * from './" ++ moduleName ++ "';"

/-- The exports of the three classes of a model. -/
def Export.ofModel (model : String) : List Export :=
  Purpose.all.map fun purpose => named (purpose.className model) (purpose.moduleName model)

/-- The export of the enumerations, where there are any. -/
def Export.ofEnums (hasEnums : Bool) : List Export :=
  if hasEnums then [star enumsModule] else []

/-! ## Barrels -/

/-- The text of a barrel: a line for each export. -/
def Export.renderAll (exports : List Export) : String :=
  "\n".intercalate (exports.map Export.render) ++ "\n"

/-- The barrel of the flat layout. -/
def flatBarrel (models : List String) (hasEnums : Bool) : List Export :=
  models.flatMap Export.ofModel ++ Export.ofEnums hasEnums

/-- The root barrel of the domain layout. -/
def rootBarrel (groups : List DomainFolder) (unbucketed : List String) (hasEnums : Bool) :
    List Export :=
  groups.map (fun group => .star group.name) ++ unbucketed.flatMap Export.ofModel ++
    Export.ofEnums hasEnums

/-- The barrel of a domain. -/
def DomainFolder.barrel (group : DomainFolder) : List Export :=
  group.subfolders.map fun subfolder => .star subfolder.name

/-- The barrel of a subfolder. -/
def Subfolder.barrel (group : Subfolder) : List Export :=
  group.models.flatMap Export.ofModel

end SchemaDto
