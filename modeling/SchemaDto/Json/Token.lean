/-
# JSON tokens

The tokens of a JSON text, found byte by byte.  A `Scan` says where inside a
token the text stands; each byte moves it on and may complete a token.  A byte
that fits nowhere yields the token `fault`, and nothing after it counts.
-/
import SchemaDto.Json.Numeral
import SchemaDto.Json.Text

namespace SchemaDto.Json

/-- A token. -/
inductive Token where
  | openArray
  | closeArray
  | openObject
  | closeObject
  | comma
  | colon
  | null
  | bool (value : Bool)
  | number (numeral : Numeral)
  | text (literal : Literal)
  /-- No token can stand here. -/
  | fault
deriving DecidableEq, Repr

/-- How far a numeral is read. -/
inductive NumeralPart where
  /-- After the sign. -/
  | sign
  /-- After a leading zero. -/
  | zero
  /-- After a digit of the whole number. -/
  | whole
  /-- After the point. -/
  | point
  /-- After a digit of the fraction. -/
  | fraction
  /-- After the letter of the exponent. -/
  | mark
  /-- After the sign of the exponent. -/
  | markSign
  /-- After a digit of the exponent. -/
  | exponent
deriving DecidableEq, Repr

/-- A numeral may end here. -/
def NumeralPart.isEnd : NumeralPart → Bool
  | zero | whole | fraction | exponent => true
  | sign | point | mark | markSign => false

/-- Where a text stands inside a token. -/
inductive Scan where
  /-- Between two tokens. -/
  | gap
  /-- In a word of which some bytes are still to come. -/
  | word (left : List UInt8) (token : Token)
  | numeral (part : NumeralPart) (soFar : Numeral)
  /-- In a string; its pieces so far stand last first. -/
  | string (pieces : List Piece)
  /-- After a backslash in a string. -/
  | escape (pieces : List Piece)
  /-- In a numeric escape of which some digits are still to come. -/
  | hex (pieces : List Piece) (left : Nat) (value : Nat)
  /-- After a fault. -/
  | lost
deriving DecidableEq, Repr

/-- The bytes of an ASCII text. -/
def ascii (text : String) : List UInt8 := text.toList.map fun c => c.toNat.toUInt8

/-- The byte of an ASCII character. -/
def byteOf (c : Char) : UInt8 := c.toNat.toUInt8

/-- The decimal digit that a byte stands for. -/
def digit? (byte : UInt8) : Option Digit :=
  if h : 48 ≤ byte.toNat ∧ byte.toNat < 58 then some ⟨byte.toNat - 48, by omega⟩ else none

/-- The hexadecimal digit that a byte stands for. -/
def hexDigit? (byte : UInt8) : Option Nat :=
  let n := byte.toNat
  if 48 ≤ n && n < 58 then some (n - 48)
  else if 65 ≤ n && n < 71 then some (n - 55)
  else if 97 ≤ n && n < 103 then some (n - 87)
  else none

/-- Blanks between tokens: space, tab, line feed, carriage return. -/
def isGap (byte : UInt8) : Bool :=
  byte == byteOf ' ' || byte == byteOf '\t' || byte == byteOf '\n' || byte == byteOf '\r'

/-- The byte that a short escape stands for. -/
def shortEscape? (byte : UInt8) : Option UInt8 :=
  [('"', '"'), ('\\', '\\'), ('/', '/'), ('b', '\x08'), ('f', '\x0c'), ('n', '\n'), ('r', '\r'),
    ('t', '\t')].findSome? fun (written, meant) =>
      if byte == byteOf written then some (byteOf meant) else none

/-- The token of a single byte. -/
def punctuation? (byte : UInt8) : Option Token :=
  [('[', Token.openArray), (']', .closeArray), ('\x7b', .openObject), ('\x7d', .closeObject),
    (',', .comma), (':', .colon)].findSome? fun (written, token) =>
      if byte == byteOf written then some token else none

/-- The word that begins with a byte: its other bytes, and its token. -/
def word? (byte : UInt8) : Option (List UInt8 × Token) :=
  if byte == byteOf 'n' then some (ascii "ull", .null)
  else if byte == byteOf 't' then some (ascii "rue", .bool true)
  else if byte == byteOf 'f' then some (ascii "alse", .bool false)
  else none

/-- What a byte does: the tokens that it completes, and where it leads. -/
abbrev Move := List Token × Scan

/-- A byte that fits nowhere. -/
def Move.fault : Move := ([.fault], .lost)

/-- A numeral that begins with a digit. -/
def Scan.firstDigit (negative : Bool) (digit : Digit) : Scan :=
  .numeral (if digit.val = 0 then .zero else .whole) ⟨negative, [digit], [], none⟩

/-- A byte between two tokens. -/
def Scan.start (byte : UInt8) : Move :=
  if isGap byte then ([], .gap)
  else match punctuation? byte with
    | some token => ([token], .gap)
    | none =>
      match word? byte with
      | some (left, token) => ([], .word left token)
      | none =>
        if byte == byteOf '"' then ([], .string [])
        else if byte == byteOf '-' then ([], .numeral .sign ⟨true, [], [], none⟩)
        else match digit? byte with
          | some digit => ([], firstDigit false digit)
          | none => .fault

/-- One more digit of the exponent. -/
def Numeral.addExponent (numeral : Numeral) (digit : Digit) : Numeral :=
  { numeral with exponent := numeral.exponent.map fun (negative, digits) =>
      (negative, digits ++ [digit]) }

/-- A digit inside a numeral; no digit follows a leading zero. -/
def Scan.addDigit (part : NumeralPart) (numeral : Numeral) (digit : Digit) : Option Scan :=
  match part with
  | .sign => some (firstDigit numeral.negative digit)
  | .zero => none
  | .whole => some (.numeral .whole { numeral with whole := numeral.whole ++ [digit] })
  | .point | .fraction =>
    some (.numeral .fraction { numeral with fraction := numeral.fraction ++ [digit] })
  | .mark | .markSign | .exponent => some (.numeral .exponent (numeral.addExponent digit))

/-- A byte other than a digit that goes on a numeral: the point, the letter of
the exponent or its sign. -/
def Scan.addMark (part : NumeralPart) (numeral : Numeral) (byte : UInt8) : Option Scan :=
  match part with
  | .zero | .whole =>
    if byte == byteOf '.' then some (.numeral .point numeral)
    else if byte == byteOf 'e' || byte == byteOf 'E' then
      some (.numeral .mark { numeral with exponent := some (false, []) })
    else none
  | .fraction =>
    if byte == byteOf 'e' || byte == byteOf 'E' then
      some (.numeral .mark { numeral with exponent := some (false, []) })
    else none
  | .mark =>
    if byte == byteOf '+' then some (.numeral .markSign numeral)
    else if byte == byteOf '-' then
      some (.numeral .markSign { numeral with exponent := some (true, []) })
    else none
  | .sign | .point | .markSign | .exponent => none

/-- A byte inside a numeral; any other byte ends it, where it may end. -/
def Scan.inNumeral (part : NumeralPart) (numeral : Numeral) (byte : UInt8) : Move :=
  match digit? byte with
  | some digit =>
    match addDigit part numeral digit with
    | some scan => ([], scan)
    | none => .fault
  | none =>
    match addMark part numeral byte with
    | some scan => ([], scan)
    | none =>
      if part.isEnd then
        let (tokens, scan) := start byte
        (.number numeral :: tokens, scan)
      else .fault

/-- A byte inside a string; control characters cannot stand there. -/
def Scan.inString (pieces : List Piece) (byte : UInt8) : Move :=
  if byte == byteOf '"' then ([.text pieces.reverse], .gap)
  else if byte == byteOf '\\' then ([], .escape pieces)
  else if byte < 32 then .fault
  else ([], .string (.byte byte :: pieces))

/-- The byte after a backslash. -/
def Scan.inEscape (pieces : List Piece) (byte : UInt8) : Move :=
  if byte == byteOf 'u' then ([], .hex pieces 4 0)
  else match shortEscape? byte with
    | some meant => ([], .string (.byte meant :: pieces))
    | none => .fault

/-- A byte inside a numeric escape. -/
def Scan.inHex (pieces : List Piece) (left value : Nat) (byte : UInt8) : Move :=
  match hexDigit? byte with
  | none => .fault
  | some digit =>
    if left ≤ 1 then ([], .string (.unit (16 * value + digit) :: pieces))
    else ([], .hex pieces (left - 1) (16 * value + digit))

/-- A byte inside a word. -/
def Scan.inWord (left : List UInt8) (token : Token) (byte : UInt8) : Move :=
  match left with
  | [] => .fault
  | next :: rest =>
    if byte != next then .fault
    else if rest.isEmpty then ([token], .gap)
    else ([], .word rest token)

/-- A byte anywhere. -/
def Scan.step : Scan → UInt8 → Move
  | gap, byte => start byte
  | word left token, byte => inWord left token byte
  | numeral part soFar, byte => inNumeral part soFar byte
  | string pieces, byte => inString pieces byte
  | escape pieces, byte => inEscape pieces byte
  | hex pieces left value, byte => inHex pieces left value byte
  | lost, _ => ([], lost)

/-- The end of the text: only a numeral can end here, anything else open is a
fault. -/
def Scan.finish : Scan → List Token
  | gap => []
  | numeral part soFar => if part.isEnd then [.number soFar] else [.fault]
  | lost => []
  | _ => [.fault]

end SchemaDto.Json
