/-
# Decoding trees

A decoder turns a tree into a value of some type, or says why it cannot.  It
looks at the parts of the tree in the order of the text and stops at the first
problem, so what comes after a wrong shape may be malformed without being
noticed.
-/
import SchemaDto.Json.Fault
import SchemaDto.Json.Reading
import SchemaDto.Order.Dict

namespace SchemaDto.Json

/-- A decoder is told how many brackets may still be opened. -/
abbrev Decoder (α : Type) := (room : Nat) → Node → Except Fault α

variable {α : Type}

/-- The number of brackets that may be open at once. -/
def nestingLimit : Nat := 127

/-- Opens a bracket. -/
def enter (room : Nat) (next : Nat → Except Fault α) : Except Fault α :=
  match room with
  | 0 => .error .malformed
  | room + 1 => next room

/-- What stands in a place, if it is well-formed.  Brackets are not looked
into. -/
def found : Node → Except Fault Found
  | .fault => .error .malformed
  | .null => .ok .null
  | .bool value => .ok (.bool value)
  | .number numeral => match numeral.number? with
    | some value => .ok (.number value)
    | none => .error .malformed
  | .text literal => match literal.text? with
    | some value => .ok (.text value)
    | none => .error .malformed
  | .array _ => .ok .sequence
  | .object _ => .ok .map

/-- Something else should stand there. -/
def refuse (expected : Expected) (node : Node) : Except Fault α :=
  match found node with
  | .ok found => .error (.mismatch (.invalidType found expected))
  | .error fault => .error fault

/-- The text of a literal. -/
def literalText (literal : Literal) : Except Fault String :=
  match literal.text? with
  | some text => .ok text
  | none => .error .malformed

namespace Decode

/-- A text. -/
def text : Decoder String
  | _, .text literal => literalText literal
  | _, node => refuse .text node

/-- A truth value. -/
def boolean : Decoder Bool
  | _, .bool value => .ok value
  | _, node => refuse .boolean node

/-- `null`, or a value. -/
def nullable (decoder : Decoder α) : Decoder (Option α)
  | _, .null => .ok none
  | room, node => (decoder room node).map some

/-- The elements of an array, in order. -/
def elements (decoder : Decoder α) (room : Nat) : Items → Except Fault (List α)
  | .nil => .ok []
  | .cons head tail => do
    let first ← decoder room head
    let rest ← elements decoder room tail
    return first :: rest

/-- An array. -/
def list (decoder : Decoder α) : Decoder (List α)
  | room, .array items => enter room fun room => elements decoder room items
  | _, node => refuse .sequence node

/-- The members of an object, added to what came before them. -/
def entries (decoder : Decoder α) (room : Nat) (dict : Dict α) : Members → Except Fault (Dict α)
  | .done => .ok dict
  | .member key value tail => do
    let key ← literalText key
    let value ← decoder room value
    entries decoder room (dict.insert key value) tail
  | .keyless => .error .malformed

/-- An object with any keys; of several members with one key the last one
counts. -/
def dict (decoder : Decoder α) : Decoder (Dict α)
  | room, .object members => enter room fun room => entries decoder room .empty members
  | _, node => refuse .map node

/-- Whether there is a value that is not `null`; the value itself is only
checked. -/
def presence : Decoder Bool
  | _, .null => .ok false
  | room, node => if node.isPlain room then .ok true else .error .malformed

/-- The value of a name, for a list of names that holds it. -/
def named (names : List (String × α)) (name : String) : Except Fault α :=
  match names.lookup name with
  | some value => .ok value
  | none => .error (.mismatch (.unknownVariant name (names.map (·.1))))

/-- Nothing but `null`. -/
def unit : Node → Except Fault Unit
  | .null => .ok ()
  | node => refuse .unit node

/-- A name from a choice, alone or as the key of an object with nothing else in
it but a `null`. -/
def variant (choose : String → Except Fault α) : Decoder α
  | _, .text literal => do choose (← literalText literal)
  | room, .object members => enter room fun _ =>
    match members with
    | .done | .keyless => .error .malformed
    | .member key value tail => do
      let choice ← choose (← literalText key)
      unit value
      match tail with
      | .done => .ok choice
      | _ => .error .malformed
  | _, _ => .error .malformed

end Decode

/-- The value of a text: nothing but blanks may stand around it. -/
def decode (decoder : Decoder α) (bytes : List UInt8) : Except Fault α :=
  let (root, clean) := read bytes
  match decoder nestingLimit root with
  | .ok value => if clean then .ok value else .error .malformed
  | .error fault => .error fault

end SchemaDto.Json
