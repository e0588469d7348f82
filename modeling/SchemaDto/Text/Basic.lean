/-
# Texts

Three views of a text: its UTF-8 bytes, what is left of it without the blanks at its ends,
and its segments between slashes, which are those of a path.
-/

namespace SchemaDto.Text

/-! ## Bytes -/

/-- The UTF-8 bytes of a text. -/
def bytes (text : String) : List UInt8 := text.toByteArray.data.toList

/-- The text of bytes, where they are UTF-8. -/
def ofBytes? (bytes : List UInt8) : Option String := String.fromUTF8? ⟨bytes.toArray⟩

/-- Bytes have a text exactly if they are the bytes of that text. -/
theorem ofBytes?_eq_some_iff {list : List UInt8} {text : String} :
    ofBytes? list = some text ↔ list = bytes text := by
  unfold ofBytes? String.fromUTF8? bytes
  constructor
  · intro h
    split at h
    · exact (Option.some.inj h) ▸ rfl
    · exact absurd h (by simp)
  · rintro rfl
    exact dif_pos text.isValidUTF8

@[simp] theorem ofBytes?_bytes (text : String) : ofBytes? (bytes text) = some text :=
  ofBytes?_eq_some_iff.2 rfl

/-! ## Blanks -/

/-- The Unicode property `White_Space`: 25 characters, unchanged since
version 6.3. -/
def isBlank (c : Char) : Bool :=
  let n := c.toNat
  (0x09 ≤ n && n ≤ 0x0D) || n == 0x20 || n == 0x85 || n == 0xA0 || n == 0x1680 ||
  (0x2000 ≤ n && n ≤ 0x200A) || n == 0x2028 || n == 0x2029 || n == 0x202F ||
  n == 0x205F || n == 0x3000

/-- The text without the blanks at its two ends. -/
def trim (s : String) : String :=
  String.ofList ((s.toList.dropWhile isBlank).reverse.dropWhile isBlank).reverse

/-! ## Paths -/

/-- The pieces of a text between its slashes, at least one. -/
def cutAtSlashes : List Char → List (List Char)
  | [] => [[]]
  | c :: rest =>
    if c = '/' then [] :: cutAtSlashes rest
    else match cutAtSlashes rest with
      | [] => [[c]]
      | segment :: others => (c :: segment) :: others

/-- The segments of a path, empty ones included. -/
def segments (path : String) : List String :=
  (cutAtSlashes path.toList).map String.ofList

/-- A text without a slash is one segment. -/
theorem cutAtSlashes_of_not_mem {cs : List Char} (h : '/' ∉ cs) : cutAtSlashes cs = [cs] := by
  induction cs with
  | nil => rfl
  | cons c rest ih =>
    have hc : c ≠ '/' := fun eq => h (eq ▸ List.mem_cons_self ..)
    simp only [cutAtSlashes, if_neg hc, ih fun mem => h (List.mem_cons_of_mem _ mem)]

end SchemaDto.Text
