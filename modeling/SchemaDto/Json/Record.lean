/-
# Decoding records

A record is written as an object or as an array.  An object holds the fields by
name, in any order, among members that the record does not know; an array holds
them in the order of their declaration.
-/
import SchemaDto.Json.Decode

namespace SchemaDto.Json

/-- A field of a record: its value changes the record decoded so far. -/
structure RecordField (α : Type) where
  key : String
  isRequired : Bool := false
  decode : Decoder (α → α)

/-- A record: its name in messages, its fields in order of declaration, and the
record without any of them. -/
structure Record (α : Type) where
  name : String
  fields : List (RecordField α)
  blank : α

variable {α β : Type}

/-- A field with a decoder for its value and a way to put the value into the
record. -/
def RecordField.of (key : String) (decoder : Decoder β) (set : β → α → α) : RecordField α where
  key := key
  decode room node := (decoder room node).map set

/-- A field that must be there. -/
def RecordField.required (field : RecordField α) : RecordField α :=
  { field with isRequired := true }

namespace Record

/-- The field of that name. -/
def field? (record : Record α) (key : String) : Option (RecordField α) :=
  record.fields.find? (·.key == key)

/-- The end of an object: every required field must have been seen. -/
def finish (record : Record α) (seen : List String) (value : α) : Except Fault α :=
  match record.fields.find? (fun field => field.isRequired && !seen.contains field.key) with
  | some field => .error (.mismatch (.missingField field.key))
  | none => .ok value

/-- The members of an object; unknown ones are skipped.  A field counts as seen
before its value is looked at. -/
def ofMembers (record : Record α) (room : Nat) (seen : List String) (value : α) :
    Members → Except Fault α
  | .done => record.finish seen value
  | .keyless => .error .malformed
  | .member key node tail => do
    let key ← literalText key
    match record.field? key with
    | none =>
      if node.isSound then ofMembers record room seen value tail else .error .malformed
    | some field =>
      if seen.contains key then .error (.mismatch (.duplicateField key))
      else
        let change ← field.decode room node
        ofMembers record room (key :: seen) (change value) tail

/-- The elements of an array.  Trailing fields that are not required may be left
out; `before` counts the fields that are there. -/
def ofItems (record : Record α) (room before : Nat) (value : α) :
    List (RecordField α) → Items → Except Fault α
  | [], .nil => .ok value
  | [], .cons .. => .error .malformed
  | field :: fields, .cons head tail => do
    let change ← field.decode room head
    ofItems record room (before + 1) (change value) fields tail
  | fields, .nil =>
    match fields.findIdx? (·.isRequired) with
    | some index =>
      .error (.mismatch (.invalidLength (before + index) record.name record.fields.length))
    | none => .ok value

/-- The decoder of a record. -/
def decoder (record : Record α) : Decoder α
  | room, .object members => enter room fun room =>
    record.ofMembers room [] record.blank members
  | room, .array items => enter room fun room =>
    record.ofItems room 0 record.blank record.fields items
  | _, node => refuse (.record record.name) node

end Record

end SchemaDto.Json
