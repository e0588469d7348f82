/-
# Words in any letter case

A word between blanks is what trimming leaves of it, and the lower-case mapping does to
ASCII letters what it should, so a word in any ASCII letter case is recognised by its
lower-case form.
-/
import Mathlib.Data.List.Basic
import SchemaDto.Text.Basic
import SchemaDto.Text.Case

namespace SchemaDto.Text

/-! ## Trimming -/

/-- The text is the word with blanks around it. -/
def IsPadded (word text : String) : Prop :=
  ∃ before after : List Char, (∀ c ∈ before ++ after, isBlank c = true) ∧
    text.toList = before ++ word.toList ++ after

theorem isPadded_self (word : String) : IsPadded word word :=
  ⟨[], [], fun _ mem => absurd mem List.not_mem_nil, by simp⟩

theorem dropWhile_isBlank {before word : List Char} (blanks : ∀ c ∈ before, isBlank c = true)
    (solid : ∀ c ∈ word, isBlank c = false) (after : List Char) (some : word ≠ []) :
    (before ++ (word ++ after)).dropWhile isBlank = word ++ after := by
  rw [List.dropWhile_append_of_pos blanks]
  cases word with
  | nil => exact absurd rfl some
  | cons first rest =>
      have notBlank : ¬ isBlank first = true := by
        rw [solid first List.mem_cons_self]
        exact Bool.false_ne_true
      exact List.dropWhile_cons_of_neg notBlank

/-- Trimming removes the blanks around a word. -/
theorem trim_of_isPadded {word text : String} (h : IsPadded word text) (some : word ≠ "")
    (solid : ∀ c ∈ word.toList, isBlank c = false) : trim text = word := by
  obtain ⟨before, after, blanks, eq⟩ := h
  obtain ⟨blanks, blanks'⟩ := List.forall_mem_append.mp blanks
  have some : word.toList ≠ [] := fun nil => some (String.toList_inj.mp nil)
  have front : text.toList.dropWhile isBlank = word.toList ++ after := by
    rw [eq, List.append_assoc]
    exact dropWhile_isBlank blanks solid after some
  have back : (word.toList ++ after).reverse.dropWhile isBlank = word.toList.reverse := by
    have reversed := @dropWhile_isBlank after.reverse word.toList.reverse
      (fun c mem => blanks' c (List.mem_reverse.mp mem))
      (fun c mem => solid c (List.mem_reverse.mp mem)) [] (by simpa using some)
    simpa using reversed
  rw [trim, front, back, List.reverse_reverse, String.ofList_toList]

/-! ## Letter case -/

/-- The word is the name in some ASCII letter case. -/
def IsCased (name word : String) : Prop := word.toList.map Char.toLower = name.toList

instance (name word : String) : Decidable (IsCased name word) :=
  inferInstanceAs (Decidable (word.toList.map Char.toLower = name.toList))

/-- Only ASCII capitals have another ASCII lower case. -/
theorem toLower_eq_self {c : Char} (h : c.toNat < 65 ∨ 90 < c.toNat) : c.toLower = c := by
  refine dif_neg ?_
  rintro ⟨low, high⟩
  have low : 65 ≤ c.toNat := UInt32.le_iff_toNat_le.mp low
  have high : c.toNat ≤ 90 := UInt32.le_iff_toNat_le.mp high
  omega

theorem toLower_of_isBlank {c : Char} (h : isBlank c = true) : c.toLower = c := by
  refine toLower_eq_self ?_
  simp only [isBlank, Bool.or_eq_true, Bool.and_eq_true, decide_eq_true_eq, beq_iff_eq] at h
  omega

/-- The run of the ASCII capitals, the first one of the table. -/
def capitals : CaseRun := ⟨0x41, 0x5A, 1, 32⟩

/-- No run but the first one reaches into ASCII. -/
theorem not_covers_of_ascii {n : Nat} (h : n < 128) :
    ∀ run ∈ caseRuns.tail, run.covers n = false := by
  have above : ∀ run ∈ caseRuns.tail, 128 ≤ run.first := by decide +kernel
  intro run mem
  have := above run mem
  simp only [CaseRun.covers, Bool.and_eq_false_iff, decide_eq_false_iff_not]
  omega

theorem lowerChar_of_ascii {c : Char} (h : c.toNat < 128) : lowerChar c = [c.toLower] := by
  have table : caseRuns = capitals :: caseRuns.tail := rfl
  have others : caseRuns.tail.find? (·.covers c.toNat) = none :=
    List.find?_eq_none.mpr fun run mem => by simp [not_covers_of_ascii h run mem]
  have dotless : c ≠ 'İ' := by
    rintro rfl
    exact absurd h (by decide)
  -- What is left is a matter of the first run.
  have ascii : ∀ n < 128, (match capitals.covers n with
      | true => [Char.ofNat (n + capitals.shift).toNat]
      | false => [Char.ofNat n]) = [(Char.ofNat n).toLower] := by
    decide
  rw [lowerChar, if_neg dotless, table, List.find?_cons, others]
  have mapped := ascii c.toNat h
  rw [Char.ofNat_toNat] at mapped
  rw [← mapped]
  cases capitals.covers c.toNat <;> rfl

theorem lowerAt_of_ascii {c : Char} (h : c.toNat < 128) (before after : List Char) :
    lowerAt before c after = [c.toLower] := by
  have noSigma : c ≠ 'Σ' := by
    rintro rfl
    exact absurd h (by decide)
  rw [lowerAt, if_neg noSigma, lowerChar_of_ascii h]

theorem lowerFrom_of_ascii {cs : List Char} (before : List Char) (h : ∀ c ∈ cs, c.toNat < 128) :
    lowerFrom before cs = cs.map Char.toLower := by
  induction cs generalizing before with
  | nil => rfl
  | cons c after ih =>
      obtain ⟨first, others⟩ := List.forall_mem_cons.mp h
      rw [lowerFrom, lowerAt_of_ascii first, ih _ others, List.map_cons, List.singleton_append]

/-- A name that is written in ASCII without blanks. -/
def IsPlainName (name : String) : Prop :=
  name ≠ "" ∧ ∀ c ∈ name.toList, c.toNat < 128 ∧ isBlank c = false

theorem isPlainName_of_all {name : String} (some : name ≠ "")
    (all : (name.toList.all fun c => decide (c.toNat < 128) && !isBlank c) = true) :
    IsPlainName name := by
  refine ⟨some, fun c mem => ?_⟩
  simpa using List.all_eq_true.mp all c mem

section Cased

variable {name word : String}

/-- A word in some case of a plain name is itself written in ASCII without blanks. -/
theorem plain_of_isCased (plain : IsPlainName name) (cased : IsCased name word) :
    ∀ c ∈ word.toList, c.toNat < 128 ∧ isBlank c = false := by
  intro c mem
  have lowered : c.toLower ∈ name.toList := cased ▸ List.mem_map_of_mem mem
  constructor
  · by_cases ascii : c.toNat < 128
    · exact ascii
    · rw [toLower_eq_self (by omega)] at lowered
      exact (plain.2 c lowered).1
  · rw [Bool.eq_false_iff]
    intro blank
    rw [toLower_of_isBlank blank] at lowered
    rw [(plain.2 c lowered).2] at blank
    cases blank

theorem lower_of_isCased (plain : IsPlainName name) (cased : IsCased name word) :
    lower word = name := by
  have chars : lowerFrom [] word.toList = word.toList.map Char.toLower :=
    lowerFrom_of_ascii [] fun c mem => (plain_of_isCased plain cased c mem).1
  rw [lower, chars, cased, String.ofList_toList]

/-- A plain name is recognised in any ASCII letter case and between any blanks. -/
theorem lower_trim {text : String} (plain : IsPlainName name) (cased : IsCased name word)
    (padded : IsPadded word text) : lower (trim text) = name := by
  have some : word ≠ "" := by
    rintro rfl
    exact plain.1 (String.toList_inj.mp cased.symm)
  rw [trim_of_isPadded padded some fun c mem => (plain_of_isCased plain cased c mem).2]
  exact lower_of_isCased plain cased

end Cased

end SchemaDto.Text
