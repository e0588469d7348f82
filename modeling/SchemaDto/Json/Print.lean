/-
# Printing trees

The compact JSON text of a tree: no blanks, short escapes where there are any,
and every other byte of a text as itself.
-/
import SchemaDto.Json.Token
import SchemaDto.Json.Tree

namespace SchemaDto.Json

/-- The hexadecimal digit of a number below 16. -/
def hexDigitByte (n : Nat) : UInt8 := byteOf (Nat.digitChar n)

/-- A numeric escape. -/
def unitEscape (unit : Nat) : List UInt8 :=
  ascii "\\u" ++ [hexDigitByte (unit / 4096 % 16), hexDigitByte (unit / 256 % 16),
    hexDigitByte (unit / 16 % 16), hexDigitByte (unit % 16)]

/-- A byte of a text: quotes, backslashes and control characters are escaped. -/
def escapeByte (byte : UInt8) : List UInt8 :=
  if byte == byteOf '"' then ascii "\\\""
  else if byte == byteOf '\\' then ascii "\\\\"
  else if byte == 8 then ascii "\\b"
  else if byte == 9 then ascii "\\t"
  else if byte == 10 then ascii "\\n"
  else if byte == 12 then ascii "\\f"
  else if byte == 13 then ascii "\\r"
  else if byte < 32 then unitEscape byte.toNat
  else [byte]

/-- A step of a string literal. -/
def Piece.print : Piece → List UInt8
  | byte value => escapeByte value
  | unit value => unitEscape value

/-- A string literal. -/
def Literal.print (literal : Literal) : List UInt8 :=
  byteOf '"' :: literal.flatMap Piece.print ++ [byteOf '"']

/-- Digits. -/
def printDigits (digits : List Digit) : List UInt8 :=
  digits.map fun digit => (48 + digit.val).toUInt8

/-- A numeral. -/
def Numeral.print (numeral : Numeral) : List UInt8 :=
  (if numeral.negative then [byteOf '-'] else []) ++ printDigits numeral.whole ++
    (if numeral.fraction.isEmpty then [] else byteOf '.' :: printDigits numeral.fraction) ++
    match numeral.exponent with
    | none => []
    | some (negative, digits) =>
      byteOf 'e' :: (if negative then [byteOf '-'] else []) ++ printDigits digits

namespace Tree

/-- A comma before further elements or members. -/
def comma : ∀ {part : Part}, Tree part → List UInt8
  | _, .cons _ _ => [byteOf ',']
  | _, .member _ _ _ => [byteOf ',']
  | _, _ => []

/-- The text of a tree.  A fault has none. -/
def print : ∀ {part : Part}, Tree part → List UInt8
  | _, .fault => []
  | _, .null => ascii "null"
  | _, .bool true => ascii "true"
  | _, .bool false => ascii "false"
  | _, .number numeral => numeral.print
  | _, .text literal => literal.print
  | _, .array items => byteOf '[' :: items.print ++ [byteOf ']']
  | _, .object members => byteOf '\x7b' :: members.print ++ [byteOf '\x7d']
  | _, .nil => []
  | _, .cons head tail => head.print ++ tail.comma ++ tail.print
  | _, .done => []
  | _, .member key value tail =>
    key.print ++ byteOf ':' :: value.print ++ tail.comma ++ tail.print
  | _, .keyless => []

end Tree

/-- The tree of a text. -/
def Node.ofText (text : String) : Node := .text (.ofText text)

/-- The tree of an array. -/
def Node.ofList (items : List Node) : Node := .array (Tree.ofItems items)

/-- The tree of an object. -/
def Node.ofMembers (members : List (String × Node)) : Node :=
  .object (Tree.ofMembers (members.map fun (key, value) => (.ofText key, value)))

end SchemaDto.Json
