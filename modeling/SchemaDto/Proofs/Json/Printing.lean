/-
# Reading what was printed

The compact text of a tree is among its texts (`Tree.written_print`), so a printed tree
is read back as it was (`read_print`).  What cannot be printed is excluded: a fault, a
numeral without digits where it needs some, a unit of more than 16 bits.
-/
import SchemaDto.Proofs.Json.Plain
import SchemaDto.Proofs.Json.Reading

namespace SchemaDto.Json

/-! ## Numerals -/

/-- The numeral has the digits that its spelling needs. -/
def Numeral.IsWellFormed (numeral : Numeral) : Prop :=
  IsWhole numeral.whole ∧ ∀ mark ∈ numeral.exponent, mark.2 ≠ []

instance : DecidablePred Numeral.IsWellFormed := fun numeral =>
  inferInstanceAs (Decidable (IsWhole numeral.whole ∧ ∀ mark ∈ numeral.exponent, mark.2 ≠ []))

theorem Numeral.written_print {numeral : Numeral} (h : numeral.IsWellFormed) :
    numeral.Written numeral.print := by
  obtain ⟨whole, exponent⟩ := h
  refine ⟨whole, ?_⟩
  cases eq : numeral.exponent with
  | none => exact ⟨[], .absent, by simp [print, eq, minus, fractionText]⟩
  | some mark =>
      obtain ⟨negative, digits⟩ := mark
      have some : digits ≠ [] := exponent (negative, digits) eq
      cases negative with
      | false =>
          refine ⟨_, .plain (show byteOf 'e' ∈ ascii "eE" by decide) some, ?_⟩
          simp [print, eq, minus, fractionText]
      | true =>
          refine ⟨_, .signed true (show byteOf 'e' ∈ ascii "eE" by decide) some, ?_⟩
          simp [print, eq, minus, fractionText]

/-! ## Strings -/

theorem isHexDigit_hexDigitByte (value : Fin 16) : IsHexDigit value (hexDigitByte value) :=
  .inl rfl

/-- Every 16-bit unit is written by its numeric escape. -/
theorem Piece.written_unitEscape {unit : Nat} (h : unit < 65536) :
    (Piece.unit unit).Written (unitEscape unit) := by
  have digit : ∀ n : Nat, n % 16 < 16 := fun n => Nat.mod_lt n (by omega)
  have written := Piece.Written.unit
    (isHexDigit_hexDigitByte ⟨unit / 4096 % 16, digit _⟩)
    (isHexDigit_hexDigitByte ⟨unit / 256 % 16, digit _⟩)
    (isHexDigit_hexDigitByte ⟨unit / 16 % 16, digit _⟩)
    (isHexDigit_hexDigitByte ⟨unit % 16, digit _⟩)
  have value : 4096 * (unit / 4096 % 16) + 256 * (unit / 256 % 16) + 16 * (unit / 16 % 16) +
      unit % 16 = unit := by omega
  simp only [value] at written
  exact written

/-- The step is written as it is.  Other control characters than those with a short escape
are written by their units instead. -/
def Piece.IsPrintable : Piece → Prop
  | byte value => 32 ≤ value ∨ value ∈ shortEscapes.map (·.2)
  | unit value => value < 65536

instance : DecidablePred Piece.IsPrintable := fun piece =>
  match piece with
  | .byte value =>
    inferInstanceAs (Decidable (32 ≤ value ∨ value ∈ shortEscapes.map (·.2)))
  | .unit value => inferInstanceAs (Decidable (value < 65536))

/-- Printing uses every short escape but that of the slash. -/
theorem escapeByte_short {entry : UInt8 × UInt8} (h : entry ∈ shortEscapes)
    (ne : entry.2 ≠ byteOf '/') : escapeByte entry.2 = [byteOf '\\', entry.1] := by
  have all : shortEscapes.all (fun entry =>
      entry.2 == byteOf '/' || escapeByte entry.2 == [byteOf '\\', entry.1]) = true := rfl
  have either := List.all_eq_true.mp all entry h
  rw [Bool.or_eq_true, beq_iff_eq, beq_iff_eq] at either
  exact either.resolve_left ne

theorem escapeByte_plain {byte : UInt8} (visible : 32 ≤ byte) (quote : byte ≠ byteOf '"')
    (backslash : byte ≠ byteOf '\\') : escapeByte byte = [byte] := by
  have control : ¬ byte < 32 := UInt8.not_lt.mpr visible
  have named : ∀ other : UInt8, other < 32 → (byte == other) = false := by
    intro other small
    refine beq_eq_false_iff_ne.mpr ?_
    rintro rfl
    exact control small
  simp [escapeByte, quote, backslash, control, named 8 (by decide), named 9 (by decide),
    named 10 (by decide), named 12 (by decide), named 13 (by decide)]

theorem Piece.written_print {piece : Piece} (h : piece.IsPrintable) :
    piece.Written piece.print := by
  cases piece with
  | unit value => exact written_unitEscape h
  | byte value =>
      by_cases escaped : value ∈ shortEscapes.map (·.2) ∧ value ≠ byteOf '/'
      · obtain ⟨entry, mem, rfl⟩ := List.mem_map.mp escaped.1
        rw [print, escapeByte_short mem escaped.2]
        exact .short mem
      · have visible : 32 ≤ value := by
          rcases h with visible | short
          · exact visible
          · have slash : value = byteOf '/' :=
              Decidable.byContradiction fun ne => escaped ⟨short, ne⟩
            rw [slash]
            decide
        have quote : value ≠ byteOf '"' := by
          rintro rfl
          exact escaped (by decide)
        have backslash : value ≠ byteOf '\\' := by
          rintro rfl
          exact escaped (by decide)
        rw [print, escapeByte_plain visible quote backslash]
        exact .plain visible quote backslash

theorem Literal.written_print {literal : Literal} (h : ∀ piece ∈ literal, piece.IsPrintable) :
    literal.Written (literal.flatMap Piece.print) := by
  induction literal with
  | nil => exact .nil
  | cons piece rest ih =>
      rw [List.flatMap_cons]
      exact .cons (Piece.written_print (h piece List.mem_cons_self))
        (ih fun other mem => h other (List.mem_cons_of_mem _ mem))

/-! ## Trees -/

namespace Tree

/-- The tree can be written with the given steps in its literals: it holds no fault, and its
numerals have their digits. -/
structure IsSpelledBy {part : Part} (tree : Tree part) (allowed : Piece → Prop) : Prop where
  sound : tree.isSound = Bool.true
  numerals : ∀ numeral ∈ tree.numerals, numeral.IsWellFormed
  literals : ∀ literal ∈ tree.literals, ∀ piece ∈ literal, allowed piece

section IsSpelledBy

variable {allowed : Piece → Prop}

theorem IsSpelledBy.mono {part : Part} {tree : Tree part} (h : tree.IsSpelledBy allowed)
    {others : Piece → Prop} (more : ∀ piece, allowed piece → others piece) :
    tree.IsSpelledBy others :=
  ⟨h.sound, h.numerals,
    fun literal mem piece inside => more piece (h.literals literal mem piece inside)⟩

theorem isSpelledBy_cons {head : Node} {tail : Items} :
    (Tree.cons head tail).IsSpelledBy allowed ↔
      head.IsSpelledBy allowed ∧ tail.IsSpelledBy allowed := by
  constructor
  · rintro ⟨sound, numerals, literals⟩
    obtain ⟨headSound, tailSound⟩ := Bool.and_eq_true_iff.mp sound
    have numerals := List.forall_mem_append.mp numerals
    have literals := List.forall_mem_append.mp literals
    exact ⟨⟨headSound, numerals.1, literals.1⟩, ⟨tailSound, numerals.2, literals.2⟩⟩
  · rintro ⟨head, tail⟩
    exact ⟨Bool.and_eq_true_iff.mpr ⟨head.sound, tail.sound⟩,
      List.forall_mem_append.mpr ⟨head.numerals, tail.numerals⟩,
      List.forall_mem_append.mpr ⟨head.literals, tail.literals⟩⟩

theorem isSpelledBy_member {key : Literal} {value : Node} {tail : Members} :
    (Tree.member key value tail).IsSpelledBy allowed ↔
      (∀ piece ∈ key, allowed piece) ∧ value.IsSpelledBy allowed ∧ tail.IsSpelledBy allowed := by
  constructor
  · rintro ⟨sound, numerals, literals⟩
    obtain ⟨valueSound, tailSound⟩ := Bool.and_eq_true_iff.mp sound
    have numerals := List.forall_mem_append.mp numerals
    obtain ⟨name, literals⟩ := List.forall_mem_cons.mp literals
    have literals := List.forall_mem_append.mp literals
    exact ⟨name, ⟨valueSound, numerals.1, literals.1⟩, ⟨tailSound, numerals.2, literals.2⟩⟩
  · rintro ⟨name, value, tail⟩
    exact ⟨Bool.and_eq_true_iff.mpr ⟨value.sound, tail.sound⟩,
      List.forall_mem_append.mpr ⟨value.numerals, tail.numerals⟩,
      List.forall_mem_cons.mpr ⟨name, List.forall_mem_append.mpr ⟨value.literals, tail.literals⟩⟩⟩

end IsSpelledBy

/-- The compact text of a tree is one of its texts. -/
theorem written_print {part : Part} (tree : Tree part) (printable : tree.IsSpelledBy Piece.IsPrintable) :
    tree.Written tree.print := by
  induction tree with
  | fault | keyless => cases printable.sound
  | null => exact .null
  | bool value => cases value with
    | true => exact .true
    | false => exact .false
  | number numeral =>
      exact .number (Numeral.written_print (printable.numerals _ List.mem_cons_self))
  | text literal =>
      exact .text (Literal.written_print (printable.literals _ List.mem_cons_self))
  | array items ih =>
      exact .array areBlanks_nil (ih ⟨printable.sound, printable.numerals, printable.literals⟩)
  | object members ih =>
      exact .object areBlanks_nil (ih ⟨printable.sound, printable.numerals, printable.literals⟩)
  | nil => exact .nil
  | done => exact .done
  | cons head tail ih ih' =>
      obtain ⟨first, later⟩ := isSpelledBy_cons.mp printable
      have written := Written.cons (ih first) areBlanks_nil areBlanks_nil (ih' later)
      simpa [print] using written
  | member key value tail ih ih' =>
      obtain ⟨name, second, later⟩ := isSpelledBy_member.mp printable
      have written := Written.member (Literal.written_print name) areBlanks_nil areBlanks_nil
        (ih second) areBlanks_nil areBlanks_nil (ih' later)
      simpa [print, Literal.print, quotedBytes] using written

/-- The compact text of a tree is one of its texts. -/
theorem textOf_print {node : Node} (printable : node.IsSpelledBy Piece.IsPrintable) : node.TextOf node.print :=
  ⟨[], node.print, [], areBlanks_nil, areBlanks_nil, node.written_print printable, by simp⟩

end Tree

/-- What was printed is read back. -/
theorem read_print {node : Node} (printable : node.IsSpelledBy Piece.IsPrintable) :
    read node.print = (node, true) :=
  read_of_textOf (Tree.textOf_print printable)

/-! ## ASCII texts -/

/-- The step is a numeric escape of 16 bits. -/
def Piece.IsEscape (piece : Piece) : Prop := ∃ unit < 65536, piece = .unit unit

theorem Piece.IsEscape.isPrintable {piece : Piece} (h : piece.IsEscape) : piece.IsPrintable := by
  obtain ⟨unit, small, rfl⟩ := h
  exact small

/-- The bytes are those of ASCII characters. -/
def IsAscii (bytes : List UInt8) : Prop := ∀ byte ∈ bytes, byte < 128

theorem isAscii_nil : IsAscii [] := nofun

theorem isAscii_append {bytes others : List UInt8} :
    IsAscii (bytes ++ others) ↔ IsAscii bytes ∧ IsAscii others :=
  List.forall_mem_append

theorem isAscii_cons {byte : UInt8} {bytes : List UInt8} :
    IsAscii (byte :: bytes) ↔ byte < 128 ∧ IsAscii bytes :=
  List.forall_mem_cons

theorem isAscii_of_all {bytes : List UInt8}
    (h : (bytes.all fun byte => decide (byte < 128)) = true) : IsAscii bytes :=
  fun byte mem => of_decide_eq_true (List.all_eq_true.mp h byte mem)

theorem isAscii_printDigits (digits : List Digit) : IsAscii (printDigits digits) := by
  have digit : ∀ digit : Digit, (48 + digit.val).toUInt8 < 128 := by decide
  exact List.forall_mem_map.mpr fun d _ => digit d

theorem Numeral.isAscii_print (numeral : Numeral) : IsAscii numeral.print := by
  have sign : ∀ negative : Bool, IsAscii (if negative then [byteOf '-'] else []) := by
    intro negative
    cases negative <;> exact isAscii_of_all rfl
  unfold print
  simp only [isAscii_append]
  refine ⟨⟨⟨sign _, isAscii_printDigits _⟩, ?_⟩, ?_⟩
  · split
    · exact isAscii_of_all rfl
    · exact isAscii_cons.mpr ⟨by decide, isAscii_printDigits _⟩
  · split
    · exact isAscii_of_all rfl
    · exact isAscii_append.mpr ⟨isAscii_cons.mpr ⟨by decide, sign _⟩, isAscii_printDigits _⟩

theorem isAscii_unitEscape (unit : Nat) : IsAscii (unitEscape unit) := by
  have digit : ∀ value : Fin 16, hexDigitByte value < 128 := by decide
  have digit : ∀ n : Nat, hexDigitByte (n % 16) < 128 := fun n =>
    digit ⟨n % 16, Nat.mod_lt n (by omega)⟩
  simp only [unitEscape, isAscii_append, isAscii_cons]
  exact ⟨isAscii_of_all rfl, digit _, digit _, digit _, digit _, isAscii_nil⟩

theorem Literal.isAscii_print {literal : Literal} (h : ∀ piece ∈ literal, piece.IsEscape) :
    IsAscii literal.print := by
  simp only [print, List.cons_append, isAscii_cons, isAscii_append]
  refine ⟨by decide, fun byte mem => ?_, by decide, isAscii_nil⟩
  obtain ⟨piece, inside, mem⟩ := List.mem_flatMap.mp mem
  obtain ⟨unit, -, rfl⟩ := h piece inside
  exact isAscii_unitEscape unit byte mem

/-- A tree whose literals are escapes throughout is printed in ASCII. -/
theorem Tree.isAscii_print {part : Part} (tree : Tree part)
    (h : tree.IsSpelledBy Piece.IsEscape) : IsAscii tree.print := by
  have comma : ∀ {part : Part} (tail : Tree part), IsAscii tail.comma := by
    intro part tail
    cases tail <;> exact isAscii_of_all rfl
  induction tree with
  | fault | keyless => cases h.sound
  | null | nil | done => exact isAscii_of_all rfl
  | bool value => cases value <;> exact isAscii_of_all rfl
  | number numeral => exact numeral.isAscii_print
  | text literal => exact Literal.isAscii_print (h.literals _ List.mem_cons_self)
  | array inside ih | object inside ih =>
      simp only [print, List.cons_append, isAscii_cons, isAscii_append]
      exact ⟨by decide, ih ⟨h.sound, h.numerals, h.literals⟩, by decide, isAscii_nil⟩
  | cons head tail ih ih' =>
      obtain ⟨first, later⟩ := isSpelledBy_cons.mp h
      simp only [print, isAscii_append]
      exact ⟨⟨ih first, comma tail⟩, ih' later⟩
  | member key value tail ih ih' =>
      obtain ⟨name, second, later⟩ := isSpelledBy_member.mp h
      simp only [print, List.append_assoc, List.cons_append, isAscii_cons, isAscii_append]
      exact ⟨Literal.isAscii_print name, by decide, ih second, comma tail, ih' later⟩

end SchemaDto.Json
