/-
# Taking a text apart

What a reader of generated text does: it cuts the text into lines, looks for the
last line of a kind, and takes marks off the ends of a line.  Each of these steps
finds again what the text was put together from, as long as the parts are free
of what the step looks for.  The names in a schema are: they are identifiers, and
no sign that generated text puts around a name is part of one.
-/
import Mathlib.Data.List.Basic
import SchemaDto.Proofs.Text.Split

namespace SchemaDto.Text

/-! ## Identifiers -/

/-- The text holds none of the signs. -/
def FreeOf (signs : List Char) (text : String) : Prop := ∀ c ∈ signs, c ∉ text.toList

-- the list is to be searched, not the whole type of characters
instance (signs : List Char) (text : String) : Decidable (FreeOf signs text) :=
  List.decidableBAll (fun c => c ∉ text.toList) signs

/-- A letter, a digit or an underscore.  Every character beyond ASCII passes for
a letter, so the letters of all scripts do. -/
def isWord (c : Char) : Bool := c.isAlphanum || c == '_' || decide (128 ≤ c.toNat)

/-- Letters, digits and underscores, at least one of them and no digit first. -/
structure IsIdentifier (name : String) : Prop where
  head : name.toList.head?.any (fun c => !c.isDigit) = true
  word : name.toList.all isWord = true

instance (name : String) : Decidable (IsIdentifier name) :=
  decidable_of_iff (name.toList.head?.any (fun c => !c.isDigit) = true ∧
    name.toList.all isWord = true) ⟨fun ⟨a, b⟩ => ⟨a, b⟩, fun ⟨a, b⟩ => ⟨a, b⟩⟩

theorem IsIdentifier.freeOf {name : String} (h : IsIdentifier name) {signs : List Char}
    (others : signs.all (fun c => !isWord c) = true) : FreeOf signs name := by
  intro c isSign mem
  have word : isWord c = true := List.all_eq_true.mp h.word c mem
  have other := List.all_eq_true.mp others c isSign
  rw [word] at other
  cases other

variable {α : Type}

/-! ## Joined texts -/

/-- What a joined list holds comes from the separator or from a part. -/
theorem mem_of_mem_intercalate {separator : List α} {parts : List (List α)} {x : α}
    (mem : x ∈ separator.intercalate parts) : x ∈ separator ∨ ∃ part ∈ parts, x ∈ part := by
  induction parts with
  | nil => exact absurd mem List.not_mem_nil
  | cons first rest ih =>
      cases rest with
      | nil =>
          rw [List.intercalate_singleton] at mem
          exact .inr ⟨first, List.mem_singleton_self first, mem⟩
      | cons second rest =>
          rw [List.intercalate_cons_cons, List.mem_append, List.mem_append] at mem
          rcases mem with (mem | mem) | mem
          · exact .inr ⟨first, List.mem_cons_self, mem⟩
          · exact .inl mem
          · rcases ih mem with inSeparator | ⟨part, isPart, inPart⟩
            · exact .inl inSeparator
            · exact .inr ⟨part, List.mem_cons_of_mem _ isPart, inPart⟩

theorem not_mem_intercalate {separator : String} {parts : List String} {c : Char}
    (inSeparator : c ∉ separator.toList) (inParts : ∀ part ∈ parts, c ∉ part.toList) :
    c ∉ (separator.intercalate parts).toList := by
  intro mem
  rw [String.toList_intercalate] at mem
  rcases mem_of_mem_intercalate mem with mem | ⟨_, inTexts, mem⟩
  · exact inSeparator mem
  · obtain ⟨part, isPart, rfl⟩ := List.mem_map.mp inTexts
    exact inParts part isPart mem

/-! ## Lines -/

/-- The lines of a text. -/
def lines (text : String) : List (List Char) := text.toList.splitOn '\n'

/-- A last part without line breaks stands at the end of the last line, wherever
the part before it breaks. -/
theorem splitOn_append_free {mark : Char} {tail : List Char} (free : mark ∉ tail)
    (cs : List Char) :
    ∃ before last, (cs ++ tail).splitOn mark = before ++ [last ++ tail] := by
  induction cs with
  | nil => exact ⟨[], [], List.splitOn_eq_singleton free⟩
  | cons c rest ih =>
      obtain ⟨before, last, cut⟩ := ih
      rw [List.cons_append, List.splitOn_cons_eq_if_modifyHead, cut]
      split
      · exact ⟨[] :: before, last, rfl⟩
      · cases before with
        | nil => exact ⟨[], c :: last, rfl⟩
        | cons first others => exact ⟨(c :: first) :: others, last, rfl⟩

/-- Up to the first mark stands what precedes it. -/
theorem span_of_not_mem [BEq α] [LawfulBEq α] {mark : α} {before : List α} (free : mark ∉ before)
    (after : List α) : (before ++ mark :: after).takeWhile (· != mark) = before ∧
      (before ++ mark :: after).dropWhile (· != mark) = mark :: after := by
  have others : ∀ x ∈ before, (x != mark) = true := by
    intro x mem
    rw [bne_iff_ne]
    rintro rfl
    exact free mem
  rw [List.takeWhile_append_of_pos others, List.dropWhile_append_of_pos others]
  simp

/-! ## The last element of a kind -/

/-- The part of a list up to its last element that passes the test, and the part
after it. -/
def cutAtLast (test : α → Bool) : List α → Option (List α × List α)
  | [] => none
  | x :: rest =>
    match cutAtLast test rest with
    | some (before, after) => some (x :: before, after)
    | none => if test x then some ([x], rest) else none

theorem cutAtLast_eq_none {test : α → Bool} {xs : List α} (fails : ∀ x ∈ xs, test x = false) :
    cutAtLast test xs = none := by
  induction xs with
  | nil => rfl
  | cons x rest ih =>
      have later := ih fun y mem => fails y (List.mem_cons_of_mem _ mem)
      simp [cutAtLast, later, fails x List.mem_cons_self]

theorem cutAtLast_append {test : α → Bool} {x : α} {after : List α} (passes : test x = true)
    (fails : ∀ y ∈ after, test y = false) (before : List α) :
    cutAtLast test (before ++ x :: after) = some (before ++ [x], after) := by
  induction before with
  | nil => simp [cutAtLast, cutAtLast_eq_none fails, passes]
  | cons y rest ih => simp [cutAtLast, ih]

/-! ## Marks at the end -/

/-- The text without the mark at its end, and whether the mark was there. -/
def stripEnd (mark cs : List Char) : List Char × Bool :=
  match mark.isSuffixOf? cs with
  | some rest => (rest, true)
  | none => (cs, false)

/-- A text that lacks a character of the mark does not end in the mark. -/
theorem isSuffixOf?_eq_none {mark cs : List Char} {c : Char} (inMark : c ∈ mark)
    (free : c ∉ cs) : mark.isSuffixOf? cs = none := by
  cases h : mark.isSuffixOf? cs with
  | none => rfl
  | some rest =>
      have whole := List.isSuffixOf?_eq_some_iff_append_eq.mp h
      exact absurd (whole ▸ List.mem_append_right rest inMark) free

theorem stripEnd_append (mark : List Char) {cs : List Char} {c : Char} (inMark : c ∈ mark)
    (free : c ∉ cs) (marked : Bool) : stripEnd mark (cs ++ if marked then mark else []) = (cs, marked) := by
  cases marked with
  | true =>
      have found : mark.isSuffixOf? (cs ++ mark) = some cs :=
        List.isSuffixOf?_eq_some_iff_append_eq.mpr rfl
      simp [stripEnd, found]
  | false =>
      have absent : mark.isSuffixOf? cs = none := isSuffixOf?_eq_none inMark free
      simp [stripEnd, absent]

end SchemaDto.Text
