/-
# The characters of a string

A string spells its characters one after the other, each by its bytes or by numeric
escapes of its UTF-16 units (`Literal.Denotes`).  Whatever the choice, the literal is
read as the text of those characters (`Literal.text?_of_denotes`).
-/
import SchemaDto.Json.Text

namespace SchemaDto

namespace Text

theorem bytes_append (s t : String) : bytes (s ++ t) = bytes s ++ bytes t := by
  simp [bytes, String.toByteArray_append]

theorem bytes_ofList_cons (c : Char) (rest : List Char) :
    bytes (String.ofList (c :: rest)) =
      bytes (String.singleton c) ++ bytes (String.ofList rest) := by
  rw [String.ofList_cons, bytes_append]

theorem bytes_singleton_of_ascii {byte : UInt8} (small : byte < 128) :
    bytes (String.singleton (Char.ofNat byte.toNat)) = [byte] := by
  have bound : byte.toNat < 128 := UInt8.lt_iff_toNat_lt.mp small
  have value : (Char.ofNat byte.toNat).val.toNat = byte.toNat := by
    have valid : byte.toNat.isValidChar := .inl (by omega)
    rw [Char.toNat_val, Char.ofNat, dif_pos valid]
    rfl
  have encoded : String.utf8EncodeChar (Char.ofNat byte.toNat) = [byte] := by
    simp only [String.utf8EncodeChar, value]
    rw [if_pos (by omega), UInt8.ofNat_toNat]
  rw [bytes, String.toByteArray_singleton, List.utf8Encode_singleton, encoded]
  rfl

/-- ASCII bytes are a text: one character each. -/
theorem exists_bytes_eq {list : List UInt8} (small : ∀ byte ∈ list, byte < 128) :
    ∃ text, bytes text = list := by
  induction list with
  | nil => exact ⟨"", rfl⟩
  | cons byte rest ih =>
      obtain ⟨first, later⟩ := List.forall_mem_cons.mp small
      obtain ⟨text, eq⟩ := ih later
      refine ⟨String.singleton (Char.ofNat byte.toNat) ++ text, ?_⟩
      rw [bytes_append, bytes_singleton_of_ascii first, eq]
      rfl

end Text

namespace Json

/-! ## Spellings of a character -/

/-- The steps of a string that spell a character. -/
inductive SpellsChar (c : Char) : List Piece → Prop where
  /-- Its UTF-8 bytes. -/
  | bytes : SpellsChar c (Literal.ofText (String.singleton c))
  /-- One unit, for a character that fits. -/
  | unit (small : c.toNat < 0x10000) : SpellsChar c [.unit c.toNat]
  /-- A surrogate pair: the upper and the lower ten bits of what exceeds 16 bits. -/
  | pair (large : 0x10000 ≤ c.toNat) :
      SpellsChar c [.unit (0xD800 + (c.toNat - 0x10000) / 0x400),
        .unit (0xDC00 + (c.toNat - 0x10000) % 0x400)]

/-- The literal spells the characters in order. -/
inductive Literal.DenotesChars : Literal → List Char → Prop where
  | nil : DenotesChars [] []
  | cons {c : Char} {rest : List Char} {pieces : List Piece} {literal : Literal}
      (first : SpellsChar c pieces) (later : DenotesChars literal rest) :
      DenotesChars (pieces ++ literal) (c :: rest)

/-- The literal spells the text. -/
def Literal.Denotes (literal : Literal) (text : String) : Prop :=
  literal.DenotesChars text.toList

/-! ## Reading them back -/

/-- A character is no surrogate. -/
theorem toNat_not_surrogate (c : Char) :
    (c.toNat < 0xD800 ∨ 0xDFFF < c.toNat) ∧ c.toNat < 0x110000 := by
  have valid : c.val.toNat.isValidChar := c.valid
  rw [Char.toNat_val] at valid
  unfold Nat.isValidChar at valid
  omega

theorem utf8Bytes_toNat (c : Char) : utf8Bytes c.toNat = Text.bytes (String.singleton c) := by
  rw [utf8Bytes, Char.ofNat_toNat]

theorem Literal.bytes?_map_byte_append (bytes : List UInt8) (rest : Literal) :
    Literal.bytes? (bytes.map .byte ++ rest) = rest.bytes?.map (bytes ++ ·) := by
  induction bytes with
  | nil => cases h : rest.bytes? <;> simp [h]
  | cons byte others ih =>
      rw [List.map_cons, List.cons_append, Literal.bytes?, ih, Option.map_map]
      rfl

/-- Every spelling of a character stands for its UTF-8 bytes. -/
theorem SpellsChar.bytes?_append {c : Char} {pieces : List Piece} (h : SpellsChar c pieces)
    (rest : Literal) :
    Literal.bytes? (pieces ++ rest) =
      rest.bytes?.map (Text.bytes (String.singleton c) ++ ·) := by
  obtain ⟨outside, bound⟩ := toNat_not_surrogate c
  cases h with
  | bytes => exact Literal.bytes?_map_byte_append _ rest
  | unit small =>
      have high : isHighSurrogate c.toNat = false := by simp [isHighSurrogate]; omega
      have low : isLowSurrogate c.toNat = false := by simp [isLowSurrogate]; omega
      rw [List.singleton_append, Literal.bytes?.eq_def]
      simp only [high, low, Bool.false_eq_true, if_false, utf8Bytes_toNat]
  | pair large =>
      have high : isHighSurrogate (0xD800 + (c.toNat - 0x10000) / 0x400) = true := by
        simp [isHighSurrogate]; omega
      have low : isLowSurrogate (0xDC00 + (c.toNat - 0x10000) % 0x400) = true := by
        simp [isLowSurrogate]; omega
      have join : joinSurrogates (0xD800 + (c.toNat - 0x10000) / 0x400)
          (0xDC00 + (c.toNat - 0x10000) % 0x400) = c.toNat := by
        unfold joinSurrogates; omega
      rw [List.cons_append, List.singleton_append, Literal.bytes?.eq_def]
      simp only [high, low, if_true, join, utf8Bytes_toNat]

theorem Literal.DenotesChars.bytes?_eq {literal : Literal} {chars : List Char}
    (h : literal.DenotesChars chars) :
    literal.bytes? = some (Text.bytes (String.ofList chars)) := by
  induction h with
  | nil => rfl
  | cons first _ ih => rw [first.bytes?_append, ih, Text.bytes_ofList_cons]; rfl

/-- A literal that spells a text is read as that text. -/
theorem Literal.text?_of_denotes {literal : Literal} {text : String} (h : literal.Denotes text) :
    literal.text? = some text := by
  rw [text?, h.bytes?_eq, String.ofList_toList]
  exact Text.ofBytes?_bytes text

/-- A text is spelled by all its bytes. -/
theorem Literal.denotes_ofText (text : String) : (ofText text).Denotes text := by
  have chars : ∀ chars : List Char, (ofText (String.ofList chars)).DenotesChars chars := by
    intro chars
    induction chars with
    | nil => exact .nil
    | cons c rest ih =>
        rw [ofText, Text.bytes_ofList_cons, List.map_append]
        exact .cons .bytes ih
  have all := chars text.toList
  rwa [String.ofList_toList] at all

end Json

end SchemaDto
