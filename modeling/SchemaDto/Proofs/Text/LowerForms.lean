/-
# Lower-case forms

The lower-case mapping is a table of runs of characters, each at one distance from its forms.
The forms of a run are characters of no run, so lower-case forms are their own lower-case forms
(`lowerChar_of_mem_lowerChar`).  Beyond ASCII, a character becomes ASCII in two cases only: the
Kelvin sign becomes a k, and the dotted capital I an i with a dot after it (`lowerAt_cases`).
-/
import SchemaDto.Proofs.Text.Lower

namespace SchemaDto.Text

/-! ## The forms of a run -/

namespace CaseRun

/-- The number of the lower-case form of a character of the run. -/
def form (run : CaseRun) (n : Nat) : Nat := (n + run.shift).toNat

/-- The lower-case forms of the one run are no characters of the other.  Where they lie among
them, the other is a run of every second character, and they are those in between.

All pairs of runs are to be compared, so this is written with the comparison that evaluates
fastest. -/
def clear (run other : CaseRun) : Bool :=
  Nat.blt (run.form run.last) other.first || Nat.blt other.last (run.form run.first) ||
    (other.step == 2 && (run.step == 2 || run.first == run.last) &&
      (run.form run.first - other.first) % 2 == 1)

end CaseRun

theorem caseRuns_clear : (caseRuns.all fun run => caseRuns.all run.clear) = true := by
  decide +kernel

/-- The forms of a run are characters, and the dotted capital I is none of them. -/
theorem caseRuns_valid : ∀ run ∈ caseRuns,
    (0 < run.first + run.shift ∧ run.last + run.shift < 0xD800 ∨
      0xDFFF < run.first + run.shift ∧ run.last + run.shift < 0x110000) ∧
    (run.last + run.shift < 0x130 ∨ 0x130 < run.first + run.shift) := by
  decide +kernel

section Run

variable {run : CaseRun} (mem : run ∈ caseRuns) {n : Nat} (covered : run.covers n = true)

include mem covered

theorem toNat_of_run : (Char.ofNat (n + run.shift).toNat).toNat = run.form n := by
  have valid := (caseRuns_valid run mem).1
  simp only [CaseRun.covers, Bool.and_eq_true, decide_eq_true_eq] at covered
  have isChar : (n + run.shift).toNat.isValidChar := by
    rw [Nat.isValidChar]
    omega
  rw [Char.ofNat, dif_pos isChar]
  rfl

theorem not_covers_form {other : CaseRun} (mem' : other ∈ caseRuns) :
    other.covers (run.form n) = false := by
  rw [Bool.eq_false_iff]
  intro covered'
  have positive := (caseRuns_valid run mem).1
  have clear := List.all_eq_true.mp (List.all_eq_true.mp caseRuns_clear run mem) other mem'
  simp only [CaseRun.covers, Bool.and_eq_true, decide_eq_true_eq, beq_iff_eq] at covered covered'
  simp only [CaseRun.clear, Nat.blt_eq, Bool.or_eq_true, Bool.and_eq_true, beq_iff_eq] at clear
  simp only [CaseRun.form] at covered' clear
  rcases clear with (below | above) | ⟨⟨step', step | single⟩, between⟩
  · omega
  · omega
  · rw [step] at covered
    rw [step'] at covered'
    omega
  · rw [step'] at covered'
    omega

theorem lowerChar_of_run :
    lowerChar (Char.ofNat (n + run.shift).toNat) = [Char.ofNat (n + run.shift).toNat] := by
  have number := toNat_of_run mem covered
  have others : caseRuns.find? (·.covers (run.form n)) = none :=
    List.find?_eq_none.mpr fun other mem' => by simp [not_covers_form mem covered mem']
  have undotted : Char.ofNat (n + run.shift).toNat ≠ 'İ' := by
    intro dotted
    rw [dotted] at number
    have valid := (caseRuns_valid run mem).2
    simp only [CaseRun.covers, Bool.and_eq_true, decide_eq_true_eq] at covered
    have dottedNumber : 'İ'.toNat = 0x130 := rfl
    rw [dottedNumber, CaseRun.form] at number
    omega
  rw [lowerChar, if_neg undotted, number, others]

end Run

/-! ## The form of a character -/

/-- Lower-case forms are their own lower-case forms. -/
theorem lowerChar_of_mem_lowerChar {c d : Char} (mem : d ∈ lowerChar c) : lowerChar d = [d] := by
  unfold lowerChar at mem
  split at mem
  · rcases List.mem_cons.mp mem with rfl | mem
    · decide
    · rw [List.mem_singleton.mp mem]
      decide +kernel
  · split at mem
    · next run found =>
        have covered := List.find?_some found
        rw [List.mem_singleton.mp mem]
        exact lowerChar_of_run (List.mem_of_find?_eq_some found) covered
    · next outside =>
        rw [List.mem_singleton.mp mem, lowerChar, if_neg ‹_›, outside]

theorem isUpper_iff {c : Char} : c.isUpper = true ↔ 65 ≤ c.toNat ∧ c.toNat ≤ 90 := by
  show decide (65 ≤ c.val ∧ c.val ≤ 90) = true ↔ _
  rw [decide_eq_true_eq]
  exact and_congr UInt32.le_iff_toNat_le UInt32.le_iff_toNat_le

theorem isLower_iff {c : Char} : c.isLower = true ↔ 97 ≤ c.toNat ∧ c.toNat ≤ 122 := by
  show (decide (97 ≤ c.val) && decide (c.val ≤ 122)) = true ↔ _
  rw [Bool.and_eq_true, decide_eq_true_eq, decide_eq_true_eq]
  exact and_congr UInt32.le_iff_toNat_le UInt32.le_iff_toNat_le

/-- An ASCII capital has another lower-case form. -/
theorem not_isUpper_of_lowerChar {c : Char} (h : lowerChar c = [c]) : c.isUpper = false := by
  have capitals : ∀ n < 128, (Char.ofNat n).isUpper = true →
      (Char.ofNat n).toLower ≠ Char.ofNat n := by
    decide
  rw [Bool.eq_false_iff]
  intro upper
  have ascii : c.toNat < 128 := by
    have high : c.toNat ≤ 90 := (isUpper_iff.mp upper).2
    omega
  have other := capitals c.toNat ascii
  rw [Char.ofNat_toNat] at other
  rw [lowerChar_of_ascii ascii] at h
  exact other upper (List.singleton_inj.mp h)

/-! ## The form of a character in its place -/

/-- The run of the Kelvin sign. -/
def kelvin : CaseRun := ⟨0x212A, 0x212A, 1, -8383⟩

/-- Of the runs beyond ASCII, only that of the Kelvin sign leads into ASCII. -/
theorem caseRuns_beyond_ascii :
    ∀ run ∈ caseRuns.tail, 128 ≤ run.first + run.shift ∨ run = kelvin := by
  decide +kernel

theorem form_beyond_ascii {run : CaseRun} (mem : run ∈ caseRuns) {n : Nat}
    (covered : run.covers n = true) (beyond : 128 ≤ n) :
    128 ≤ run.form n ∨ run.form n = 'k'.toNat := by
  simp only [CaseRun.covers, Bool.and_eq_true, decide_eq_true_eq] at covered
  have table : caseRuns = capitals :: caseRuns.tail := rfl
  rw [table] at mem
  rcases List.mem_cons.mp mem with rfl | mem
  · have last : capitals.last = 0x5A := rfl
    omega
  · rcases caseRuns_beyond_ascii run mem with high | rfl
    · left
      rw [CaseRun.form]
      omega
    · right
      have sign : n = 0x212A := Nat.le_antisymm covered.1.2 covered.1.1
      rw [sign]
      rfl

/-- A character becomes what it becomes in ASCII, but for some characters beyond ASCII.  These
become others beyond ASCII or a k, and the dotted capital I becomes two characters. -/
theorem lowerAt_cases (before : List Char) (c : Char) (after : List Char) :
    (c = 'İ' ∧ lowerAt before c after = ['i', '\u0307']) ∨
    ∃ d, lowerAt before c after = [d] ∧
      (d = c.toLower ∨ 128 ≤ c.toNat ∧ (128 ≤ d.toNat ∨ d = 'k')) := by
  by_cases ascii : c.toNat < 128
  · exact .inr ⟨c.toLower, lowerAt_of_ascii ascii before after, .inl rfl⟩
  have beyond : 128 ≤ c.toNat := Nat.le_of_not_lt ascii
  by_cases sigma : c = 'Σ'
  · refine .inr ⟨lowerSigma before after, if_pos sigma, .inr ⟨beyond, .inl ?_⟩⟩
    unfold lowerSigma
    split <;> decide
  rw [lowerAt, if_neg sigma]
  by_cases dotted : c = 'İ'
  · exact .inl ⟨dotted, if_pos dotted⟩
  right
  rw [lowerChar, if_neg dotted]
  cases found : caseRuns.find? (·.covers c.toNat) with
  | none => exact ⟨c, rfl, .inl (toLower_eq_self (by omega)).symm⟩
  | some run =>
      have mem : run ∈ caseRuns := List.mem_of_find?_eq_some found
      have covered := List.find?_some found
      refine ⟨_, rfl, .inr ⟨beyond, ?_⟩⟩
      rw [← Char.toNat_inj, toNat_of_run mem covered]
      exact form_beyond_ascii mem covered beyond

end SchemaDto.Text
