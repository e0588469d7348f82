import SchemaDto.Main
import SchemaDto.Proofs.Order.Dict
import SchemaDto.Proofs.Placement.Bucket
import SchemaDto.Proofs.Text.LowerForms
import SchemaDto.Proofs.Text.Kebab
import SchemaDto.Proofs.Text.Path
import SchemaDto.Proofs.Text.Split
import SchemaDto.Proofs.Text.Walk
import SchemaDto.Proofs.Emit.Names
import SchemaDto.Proofs.Fallible
import SchemaDto.Proofs.Output.Run
import SchemaDto.Proofs.Placement.Groups
import SchemaDto.Proofs.Output.Keys
import SchemaDto.Proofs.Output.Barrels
import SchemaDto.Proofs.Emit.Imports
import SchemaDto.Proofs.Output.References
import SchemaDto.Proofs.Output.Reachable
import SchemaDto.Proofs.Output.ClassNames
import SchemaDto.Proofs.Output.Failure
import SchemaDto.Proofs.Text.Lines
import SchemaDto.Proofs.Emit.ClassText
import SchemaDto.Proofs.Emit.Fields
import SchemaDto.Proofs.Output.Writable
import SchemaDto.Proofs.Agreement
import SchemaDto.Proofs.Output.EnumsImport
import SchemaDto.Proofs.Output.Modules
import SchemaDto.Proofs.Output.Objects
import SchemaDto.Proofs.Output.Layouts
import SchemaDto.Proofs.Output.Influence
import SchemaDto.Proofs.Output.ModelOrder
import SchemaDto.Proofs.Schema.ModelEnums
import SchemaDto.Proofs.Schema.EnumValues
import SchemaDto.Proofs.Json.Grammar
import SchemaDto.Proofs.Json.Lexing
import SchemaDto.Proofs.Json.Reading
import SchemaDto.Proofs.Json.Form
import SchemaDto.Proofs.Json.RecordForm
import SchemaDto.Proofs.Schema.Rendering
import SchemaDto.Proofs.Settings.Rendering
import SchemaDto.Proofs.Json.Range
import SchemaDto.Proofs.Placement.Partition
import SchemaDto.Proofs.Emit.Property
import SchemaDto.Proofs.Emit.Closure
import SchemaDto.Proofs.Settings.Options
import SchemaDto.Proofs.Placement.Views
import SchemaDto.Proofs.Schema.Relations
import SchemaDto.Proofs.Emit.EnumsText
import SchemaDto.Proofs.Emit.Shared
import SchemaDto.Proofs.Typing.FieldNames
import SchemaDto.Proofs.Output.Omissions
