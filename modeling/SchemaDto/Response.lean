/-
# Responses

The answer to a request as a JSON text: the files, or no files and the reason.
-/
import SchemaDto.Json.Print
import SchemaDto.Request

namespace SchemaDto

open Json

/-- The JSON form of a file. -/
def File.node (file : File) : Node :=
  .ofMembers ([("fileName", .ofText file.name), ("content", .ofText file.text)] ++
    (file.folder.map fun folder => ("folderPath", Node.ofText folder)).toList)

/-- The JSON form of the outcome of a request. -/
def responseNode : Except Refusal (List File) → Node
  | .ok files => .ofMembers [("files", .ofList (files.map File.node))]
  | .error refusal => .ofMembers [("files", .ofList []), ("error", .ofText refusal.message)]

/-- The response to a text. -/
def respond (bytes : List UInt8) : List UInt8 :=
  (responseNode (generateFrom bytes)).print

end SchemaDto
