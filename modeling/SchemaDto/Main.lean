/-
# Command line

Reads a request from standard input and writes the response to standard output.
-/
import SchemaDto.Response

namespace SchemaDto

/-- Everything that is left of a stream. -/
partial def readAll (stream : IO.FS.Stream) (before : ByteArray) : IO ByteArray := do
  let chunk ← stream.read 65536
  if chunk.isEmpty then return before else readAll stream (before ++ chunk)

end SchemaDto

def main : IO Unit := do
  let input ← SchemaDto.readAll (← IO.getStdin) .empty
  let output ← IO.getStdout
  output.write ⟨(SchemaDto.respond input.data.toList).toArray⟩
  output.flush
