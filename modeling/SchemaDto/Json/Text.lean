/-
# String literals

What stands between the quotes of a string literal.  A literal is read byte by
byte and may turn out to be no text at all: its bytes need not be UTF-8, and a
numeric escape may be half of a surrogate pair.
-/
import SchemaDto.Text.Basic

namespace SchemaDto.Json

/-- A step in a string literal. -/
inductive Piece where
  /-- A byte, written as itself or by a short escape. -/
  | byte (value : UInt8)
  /-- A 16-bit unit, written by a numeric escape. -/
  | unit (value : Nat)
deriving DecidableEq, Repr

/-- What stands between the quotes of a string literal. -/
abbrev Literal := List Piece

/-- The unit opens a surrogate pair. -/
def isHighSurrogate (unit : Nat) : Bool := 0xD800 ≤ unit && unit ≤ 0xDBFF

/-- The unit closes a surrogate pair. -/
def isLowSurrogate (unit : Nat) : Bool := 0xDC00 ≤ unit && unit ≤ 0xDFFF

/-- The code point of a surrogate pair. -/
def joinSurrogates (high low : Nat) : Nat :=
  0x10000 + (high - 0xD800) * 0x400 + (low - 0xDC00)

/-- The UTF-8 bytes of a code point. -/
def utf8Bytes (codePoint : Nat) : List UInt8 :=
  Text.bytes (String.singleton (Char.ofNat codePoint))

/-- The bytes of a literal.  Surrogates must come in pairs. -/
def Literal.bytes? : Literal → Option (List UInt8)
  | [] => some []
  | .byte value :: rest => (Literal.bytes? rest).map (value :: ·)
  | .unit value :: rest =>
    if isHighSurrogate value then
      match rest with
      | .unit low :: rest =>
        if isLowSurrogate low then
          (Literal.bytes? rest).map (utf8Bytes (joinSurrogates value low) ++ ·)
        else none
      | _ => none
    else if isLowSurrogate value then none
    else (Literal.bytes? rest).map (utf8Bytes value ++ ·)

/-- The text of a literal, if it is one. -/
def Literal.text? (literal : Literal) : Option String :=
  literal.bytes?.bind Text.ofBytes?

/-- The literal that spells every byte of a text by itself. -/
def Literal.ofText (text : String) : Literal :=
  (Text.bytes text).map .byte

/-! ## Spelling a text -/

theorem Literal.bytes?_map_byte (bytes : List UInt8) :
    Literal.bytes? (bytes.map .byte) = some bytes := by
  induction bytes with
  | nil => rfl
  | cons byte rest ih => simp [Literal.bytes?, ih]

/-- The literal of a text reads as that text. -/
@[simp] theorem Literal.text?_ofText (text : String) : (ofText text).text? = some text := by
  simp [text?, ofText, bytes?_map_byte]

end SchemaDto.Json
