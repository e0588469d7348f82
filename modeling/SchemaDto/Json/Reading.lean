/-
# Reading JSON texts

The tree of a text is built token by token.  A `Site` says what may come next;
the brackets that are still open lie on a stack, innermost first.  Any text has
a tree: where it goes wrong, every open bracket is closed around the fault.
-/
import SchemaDto.Json.Token
import SchemaDto.Json.Tree

namespace SchemaDto.Json

/-- An open bracket that waits for a value; what it holds so far stands last
first. -/
inductive Frame where
  | items (before : List Node)
  | member (before : List (Literal × Node)) (key : Literal)

/-- What may come next. -/
inductive Site where
  /-- A value. -/
  | beforeValue (frames : List Frame)
  /-- A value, or the end of an array that holds nothing yet. -/
  | beforeFirstItem (frames : List Frame)
  /-- A comma or the end of an array. -/
  | afterItem (before : List Node) (frames : List Frame)
  /-- A key, or the end of an object that holds nothing yet. -/
  | beforeFirstKey (frames : List Frame)
  /-- A key. -/
  | beforeKey (before : List (Literal × Node)) (frames : List Frame)
  /-- A colon. -/
  | beforeColon (before : List (Literal × Node)) (key : Literal) (frames : List Frame)
  /-- A comma or the end of an object. -/
  | afterMember (before : List (Literal × Node)) (frames : List Frame)
  /-- Nothing: the tree is complete.  It is clean if nothing came after it. -/
  | complete (root : Node) (clean : Bool)

namespace Site

/-- The site after a value. -/
def deliver (node : Node) : List Frame → Site
  | [] => complete node true
  | .items before :: frames => afterItem (node :: before) frames
  | .member before key :: frames => afterMember ((key, node) :: before) frames

/-- The tree that a value ends, with every open bracket closed after it. -/
def close (node : Node) : List Frame → Node
  | [] => node
  | .items before :: frames => close (.array (Tree.ofReversedItems (node :: before))) frames
  | .member before key :: frames =>
    close (.object (Tree.ofReversedMembers ((key, node) :: before) .done)) frames

/-- The text goes wrong with that value. -/
def abandon (node : Node) (frames : List Frame) : Site :=
  complete (close node frames) false

/-- A token where a value must come. -/
def onValue (frames : List Frame) : Token → Site
  | .openArray => beforeFirstItem frames
  | .openObject => beforeFirstKey frames
  | .null => deliver .null frames
  | .bool value => deliver (.bool value) frames
  | .number numeral => deliver (.number numeral) frames
  | .text literal => deliver (.text literal) frames
  | .closeArray | .closeObject | .comma | .colon | .fault => abandon .fault frames

/-- The text goes wrong in an object where a key or the end should stand. -/
def abandonMembers (before : List (Literal × Node)) (frames : List Frame) : Site :=
  abandon (.object (Tree.ofReversedMembers before .keyless)) frames

/-- A token where a key must come. -/
def onKey (before : List (Literal × Node)) (frames : List Frame) : Token → Site
  | .text literal => beforeColon before literal frames
  | _ => abandonMembers before frames

/-- The site after a token. -/
def push : Site → Token → Site
  | beforeValue frames, token => onValue frames token
  | beforeFirstItem frames, .closeArray => deliver (.array .nil) frames
  | beforeFirstItem frames, token => onValue (.items [] :: frames) token
  | afterItem before frames, .comma => beforeValue (.items before :: frames)
  | afterItem before frames, .closeArray =>
    deliver (.array (Tree.ofReversedItems before)) frames
  | afterItem before frames, _ => abandon .fault (.items before :: frames)
  | beforeFirstKey frames, .closeObject => deliver (.object .done) frames
  | beforeFirstKey frames, token => onKey [] frames token
  | beforeKey before frames, token => onKey before frames token
  | beforeColon before key frames, .colon => beforeValue (.member before key :: frames)
  | beforeColon before key frames, _ => abandon .fault (.member before key :: frames)
  | afterMember before frames, .comma => beforeKey before frames
  | afterMember before frames, .closeObject =>
    deliver (.object (Tree.ofReversedMembers before .done)) frames
  | afterMember before frames, _ => abandonMembers before frames
  | complete root _, _ => complete root false

/-- The tree, and whether it is the whole text: the end of the text is a fault
where the tree is not complete. -/
def finish : Site → Node × Bool
  | complete root clean => (root, clean)
  | site =>
    match site.push .fault with
    | complete root _ => (root, false)
    | _ => (.fault, false)

end Site

/-- Where a text stands: inside a token, and in its tree. -/
structure Reading where
  scan : Scan
  site : Site

namespace Reading

/-- The beginning of a text. -/
def start : Reading := ⟨.gap, .beforeValue []⟩

/-- One more byte. -/
def step (reading : Reading) (byte : UInt8) : Reading :=
  let (tokens, scan) := reading.scan.step byte
  ⟨scan, tokens.foldl Site.push reading.site⟩

/-- The tree at the end of the text, and whether it is the whole text. -/
def finish (reading : Reading) : Node × Bool :=
  (reading.scan.finish.foldl Site.push reading.site).finish

end Reading

/-- The tree of a text, and whether it is the whole text. -/
def read (bytes : List UInt8) : Node × Bool :=
  (bytes.foldl Reading.step .start).finish

end SchemaDto.Json
