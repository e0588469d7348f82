/-
# The texts of a tree

Which byte sequences spell a tree, by the grammar of JSON and without regard to how
they are read: blanks may stand around every token, a numeral may write its exponent in
three ways, and a byte of a string may stand for itself or be escaped.  A tree has many
texts (`Tree.TextOf`); the compact one is among them (`Tree.written_print`).
-/
import SchemaDto.Json.Print

namespace SchemaDto.Json

/-- Blanks between tokens, any number of them. -/
def AreBlanks (gap : List UInt8) : Prop := ∀ byte ∈ gap, byte ∈ ascii " \t\n\r"

theorem areBlanks_nil : AreBlanks [] := fun _ mem => absurd mem List.not_mem_nil

/-! ## Numerals -/

/-- The digits before the point: a zero alone, or digits of which the first one is not
zero. -/
def IsWhole : List Digit → Prop
  | [] => False
  | first :: rest => first.val = 0 → rest = []

instance : DecidablePred IsWhole := fun whole =>
  match whole with
  | [] => .isFalse id
  | first :: rest => inferInstanceAs (Decidable (first.val = 0 → rest = []))

/-- The spellings of an exponent.  Without a sign it is positive. -/
inductive ExponentWritten : Option (Bool × List Digit) → List UInt8 → Prop where
  | absent : ExponentWritten none []
  | plain {letter : UInt8} {digits : List Digit} (h : letter ∈ ascii "eE") (some : digits ≠ []) :
      ExponentWritten (.some (false, digits)) (letter :: printDigits digits)
  | signed {letter : UInt8} {digits : List Digit} (negative : Bool) (h : letter ∈ ascii "eE")
      (some : digits ≠ []) :
      ExponentWritten (.some (negative, digits))
        (letter :: byteOf (if negative then '-' else '+') :: printDigits digits)

/-- The minus of a negative numeral. -/
def minus (negative : Bool) : List UInt8 := if negative then [byteOf '-'] else []

/-- The point with the digits after it, where there are any. -/
def fractionText (digits : List Digit) : List UInt8 :=
  if digits.isEmpty then [] else byteOf '.' :: printDigits digits

/-- The spellings of a numeral. -/
def Numeral.Written (numeral : Numeral) (bytes : List UInt8) : Prop :=
  IsWhole numeral.whole ∧ ∃ exponent, ExponentWritten numeral.exponent exponent ∧
    bytes = minus numeral.negative ++ printDigits numeral.whole ++
      fractionText numeral.fraction ++ exponent

/-! ## Strings -/

/-- The bytes that have a short escape, each after the letter of its escape. -/
def shortEscapes : List (UInt8 × UInt8) :=
  [(byteOf '"', 0x22), (byteOf '\\', 0x5C), (byteOf '/', 0x2F), (byteOf 'b', 0x08),
    (byteOf 'f', 0x0C), (byteOf 'n', 0x0A), (byteOf 'r', 0x0D), (byteOf 't', 0x09)]

/-- The byte is a hexadecimal digit of that value; letters come in either case. -/
def IsHexDigit (value : Fin 16) (byte : UInt8) : Prop :=
  byte = byteOf (Nat.digitChar value) ∨ byte = byteOf (Nat.digitChar value).toUpper

/-- The spellings of a step in a string. -/
inductive Piece.Written : Piece → List UInt8 → Prop where
  /-- A byte stands for itself, unless it is a control character, the quote or the
  backslash. -/
  | plain {byte : UInt8} (visible : 32 ≤ byte) (quote : byte ≠ byteOf '"')
      (backslash : byte ≠ byteOf '\\') : Written (.byte byte) [byte]
  | short {letter meant : UInt8} (h : (letter, meant) ∈ shortEscapes) :
      Written (.byte meant) [byteOf '\\', letter]
  /-- Four hexadecimal digits, the most significant one first. -/
  | unit {a b c d : Fin 16} {first second third fourth : UInt8} (ha : IsHexDigit a first)
      (hb : IsHexDigit b second) (hc : IsHexDigit c third) (hd : IsHexDigit d fourth) :
      Written (.unit (4096 * a + 256 * b + 16 * c + d))
        (ascii "\\u" ++ [first, second, third, fourth])

/-- The spellings of what stands between the quotes of a string. -/
inductive Literal.Written : Literal → List UInt8 → Prop where
  | nil : Written [] []
  | cons {piece : Piece} {rest : Literal} {bytes others : List UInt8}
      (first : piece.Written bytes) (later : Literal.Written rest others) :
      Written (piece :: rest) (bytes ++ others)

/-- A string with its quotes. -/
def quotedBytes (bytes : List UInt8) : List UInt8 := byteOf '"' :: bytes ++ [byteOf '"']

/-! ## Trees -/

namespace Tree

/-- The spellings of a tree, or of a list of its parts. -/
inductive Written : ∀ {part : Part}, Tree part → List UInt8 → Prop where
  | null : Written .null (ascii "null")
  | true : Written (.bool .true) (ascii "true")
  | false : Written (.bool .false) (ascii "false")
  | number {numeral : Numeral} {bytes : List UInt8} (h : numeral.Written bytes) :
      Written (.number numeral) bytes
  | text {literal : Literal} {bytes : List UInt8} (h : literal.Written bytes) :
      Written (.text literal) (quotedBytes bytes)
  | array {items : Items} {gap bytes : List UInt8} (blanks : AreBlanks gap)
      (h : Written items bytes) :
      Written (.array items) (byteOf '[' :: (gap ++ bytes ++ [byteOf ']']))
  | object {members : Members} {gap bytes : List UInt8} (blanks : AreBlanks gap)
      (h : Written members bytes) :
      Written (.object members) (byteOf '\x7b' :: (gap ++ bytes ++ [byteOf '\x7d']))
  | nil : Written .nil []
  | cons {head : Node} {tail : Items} {bytes gap₁ gap₂ others : List UInt8}
      (first : Written head bytes) (blanks₁ : AreBlanks gap₁) (blanks₂ : AreBlanks gap₂)
      (later : Written tail others) :
      Written (.cons head tail) (bytes ++ gap₁ ++ (tail.comma ++ gap₂ ++ others))
  | done : Written .done []
  | member {key : Literal} {value : Node} {tail : Members}
      {name bytes gap₁ gap₂ gap₃ gap₄ others : List UInt8}
      (first : key.Written name) (blanks₁ : AreBlanks gap₁) (blanks₂ : AreBlanks gap₂)
      (second : Written value bytes) (blanks₃ : AreBlanks gap₃) (blanks₄ : AreBlanks gap₄)
      (later : Written tail others) :
      Written (.member key value tail)
        (quotedBytes name ++ gap₁ ++ byteOf ':' :: gap₂ ++ bytes ++ gap₃ ++
          (tail.comma ++ gap₄ ++ others))

/-- The texts of a tree: nothing but blanks stands around it. -/
def TextOf (node : Node) (bytes : List UInt8) : Prop :=
  ∃ before body after, AreBlanks before ∧ AreBlanks after ∧ node.Written body ∧
    bytes = before ++ body ++ after

/-- What is spelled does not go wrong anywhere. -/
theorem Written.isSound {part : Part} {tree : Tree part} {bytes : List UInt8}
    (h : tree.Written bytes) : tree.isSound = Bool.true := by
  induction h with
  | null | true | false | number | text | nil | done => rfl
  | array _ _ ih | object _ _ ih => exact ih
  | cons _ _ _ _ ih ih' | member _ _ _ _ _ _ _ ih ih' =>
      exact Bool.and_eq_true_iff.mpr ⟨ih, ih'⟩

end Tree

end SchemaDto.Json
