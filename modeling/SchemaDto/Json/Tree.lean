/-
# JSON trees

The tree of a JSON text.  A text that goes wrong somewhere still has a tree: it
holds everything before the fault and a `fault` where it stops, so that a
reader of the tree meets problems in the order of the text.

Values, lists of elements and lists of members form one family, so that one
induction runs through all three.
-/
import SchemaDto.Json.Numeral
import SchemaDto.Json.Text

namespace SchemaDto.Json

/-- What a part of a tree stands for. -/
inductive Part where
  | value
  | items
  | members
deriving DecidableEq, Repr

/-- A tree, or a list of its parts. -/
inductive Tree : Part → Type where
  /-- The text goes wrong here. -/
  | fault : Tree .value
  | null : Tree .value
  | bool (value : Bool) : Tree .value
  | number (numeral : Numeral) : Tree .value
  | text (literal : Literal) : Tree .value
  | array (items : Tree .items) : Tree .value
  | object (members : Tree .members) : Tree .value
  /-- No further elements. -/
  | nil : Tree .items
  | cons (head : Tree .value) (tail : Tree .items) : Tree .items
  /-- No further members. -/
  | done : Tree .members
  | member (key : Literal) (value : Tree .value) (tail : Tree .members) : Tree .members
  /-- The text goes wrong where a key should stand. -/
  | keyless : Tree .members
deriving DecidableEq

/-- A JSON value. -/
abbrev Node := Tree .value

/-- The elements of an array. -/
abbrev Items := Tree .items

/-- The members of an object. -/
abbrev Members := Tree .members

namespace Tree

/-- The elements of a list, given last first. -/
def ofReversedItems (items : List Node) : Items :=
  items.foldl (fun tail head => .cons head tail) .nil

/-- The members of a list, given last first, before others. -/
def ofReversedMembers (members : List (Literal × Node)) (tail : Members) : Members :=
  members.foldl (fun tail (key, value) => .member key value tail) tail

/-- The elements of a list. -/
def ofItems (items : List Node) : Items := items.foldr .cons .nil

/-- The members of a list. -/
def ofMembers (members : List (Literal × Node)) : Members :=
  members.foldr (fun (key, value) tail => .member key value tail) .done

/-- The text of the tree does not go wrong anywhere. -/
def isSound : ∀ {part : Part}, Tree part → Bool
  | _, .fault => false
  | _, .null => true
  | _, .bool _ => true
  | _, .number _ => true
  | _, .text _ => true
  | _, .array items => items.isSound
  | _, .object members => members.isSound
  | _, .nil => true
  | _, .cons head tail => head.isSound && tail.isSound
  | _, .done => true
  | _, .member _ value tail => value.isSound && tail.isSound
  | _, .keyless => false

/-- The tree is sound, its literals are texts, its numerals have values, and it
nests at most `room` brackets. -/
def isPlain : ∀ {part : Part}, (room : Nat) → Tree part → Bool
  | _, _, .fault => false
  | _, _, .null => true
  | _, _, .bool _ => true
  | _, _, .number numeral => numeral.number?.isSome
  | _, _, .text literal => literal.text?.isSome
  | _, 0, .array _ => false
  | _, room + 1, .array items => items.isPlain room
  | _, 0, .object _ => false
  | _, room + 1, .object members => members.isPlain room
  | _, _, .nil => true
  | _, room, .cons head tail => head.isPlain room && tail.isPlain room
  | _, _, .done => true
  | _, room, .member key value tail =>
    key.text?.isSome && value.isPlain room && tail.isPlain room
  | _, _, .keyless => false

end Tree

end SchemaDto.Json
