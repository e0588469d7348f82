/-
# Laws of kebab case

Kebab case is read off a name character by character, with a memory of one character: what
stands before matters only where an upper-case letter follows a lower-case one, and where a
blank follows a blank.  So kebab case of two names put together is that of the one and that of
the other, apart from the hyphen between them (`kebab_append`).

What kebab case writes it leaves alone: blanks become hyphens, lower-casing brings in none, and
lower-case forms are their own lower-case forms.  So the names in kebab case are those without
blanks and without characters that have another lower-case form (`kebab_normal`), and such a
name can stand in a line whose words are told apart by blanks.
-/
import SchemaDto.Proofs.Text.LowerForms
import SchemaDto.Text.Case

namespace SchemaDto.Text

/-! ## Lower-casing brings in no blanks

The lower-case forms of a run lie between those of its ends, so it is enough
that no run of the table reaches across a blank. -/

/-- The blanks as ranges of code points. -/
def blankRanges : List (Nat × Nat) :=
  [(0x09, 0x0D), (0x20, 0x20), (0x85, 0x85), (0xA0, 0xA0), (0x1680, 0x1680),
   (0x2000, 0x200A), (0x2028, 0x2029), (0x202F, 0x202F), (0x205F, 0x205F),
   (0x3000, 0x3000)]

theorem mem_blankRanges_of_isBlank {c : Char} (h : isBlank c = true) :
    ∃ range ∈ blankRanges, range.1 ≤ c.toNat ∧ c.toNat ≤ range.2 := by
  simp only [isBlank, Bool.or_eq_true, Bool.and_eq_true, decide_eq_true_eq, beq_iff_eq] at h
  simp only [blankRanges, List.mem_cons, List.not_mem_nil, or_false, exists_eq_or_imp,
    exists_eq_left]
  omega

theorem caseRuns_avoid_blanks : ∀ run ∈ caseRuns, ∀ range ∈ blankRanges,
    (run.last : Int) + run.shift < range.1 ∨ (range.2 : Int) < run.first + run.shift := by
  decide +kernel

theorem not_isBlank_of_run {run : CaseRun} (mem : run ∈ caseRuns) {n : Nat}
    (covered : run.covers n = true) :
    isBlank (Char.ofNat (n + run.shift).toNat) = false := by
  rw [Bool.eq_false_iff]
  intro blank
  obtain ⟨range, inTable, low, high⟩ := mem_blankRanges_of_isBlank blank
  have clear := caseRuns_avoid_blanks run mem range inTable
  have valid := (caseRuns_valid run mem).1
  rw [toNat_of_run mem covered, CaseRun.form] at low high
  simp only [CaseRun.covers, Bool.and_eq_true, decide_eq_true_eq] at covered
  omega

theorem not_isBlank_of_mem_lowerChar {c d : Char} (h : isBlank c = false)
    (mem : d ∈ lowerChar c) : isBlank d = false := by
  unfold lowerChar at mem
  split at mem
  · rcases List.mem_cons.mp mem with rfl | mem
    · decide
    · rw [List.mem_singleton.mp mem]
      decide
  · split at mem
    · next run found =>
        rw [List.mem_singleton.mp mem]
        have covered := List.find?_some found
        exact not_isBlank_of_run (List.mem_of_find?_eq_some found) covered
    · exact List.mem_singleton.mp mem ▸ h

/-! ## Neither does kebab case -/

theorem not_isBlank_of_mem_kebabChar {before : Before} {c d : Char}
    (mem : d ∈ kebabChar before c) : isBlank d = false := by
  unfold kebabChar at mem
  split at mem
  · split at mem
    · exact absurd mem List.not_mem_nil
    · exact List.mem_singleton.mp mem ▸ (by decide)
  · next notBlank =>
      have lower : d ∈ lowerChar c → isBlank d = false :=
        not_isBlank_of_mem_lowerChar (Bool.eq_false_iff.mpr notBlank)
      split at mem
      · rcases List.mem_cons.mp mem with rfl | mem
        · decide
        · exact lower mem
      · exact lower mem

theorem not_isBlank_of_mem_kebabFrom {before : Before} {cs : List Char} {d : Char}
    (mem : d ∈ kebabFrom before cs) : isBlank d = false := by
  induction cs generalizing before with
  | nil => exact absurd mem List.not_mem_nil
  | cons c rest ih =>
      rcases List.mem_append.mp mem with mem | mem
      · exact not_isBlank_of_mem_kebabChar mem
      · exact ih mem

/-- A name in kebab case holds no blanks. -/
theorem not_isBlank_of_mem_kebab {name : String} {d : Char}
    (mem : d ∈ (kebab name).toList) : isBlank d = false := by
  rw [kebab, String.toList_ofList] at mem
  exact not_isBlank_of_mem_kebabFrom mem

theorem space_not_mem_kebab (name : String) : ' ' ∉ (kebab name).toList :=
  fun mem => absurd (not_isBlank_of_mem_kebab mem) (by decide)

/-! ## Names in kebab case -/

theorem lowerChar_of_mem_kebabFrom {before : Before} {cs : List Char} {d : Char}
    (mem : d ∈ kebabFrom before cs) : lowerChar d = [d] := by
  have hyphen : lowerChar '-' = ['-'] := by decide +kernel
  induction cs generalizing before with
  | nil => exact absurd mem List.not_mem_nil
  | cons c rest ih =>
      rcases List.mem_append.mp mem with mem | mem
      · unfold kebabChar at mem
        split at mem
        · split at mem
          · exact absurd mem List.not_mem_nil
          · exact List.mem_singleton.mp mem ▸ hyphen
        · split at mem
          · rcases List.mem_cons.mp mem with rfl | mem
            · exact hyphen
            · exact lowerChar_of_mem_lowerChar mem
          · exact lowerChar_of_mem_lowerChar mem
      · exact ih mem

/-- Without blanks and without characters that have another lower-case form, there is nothing
to do. -/
theorem kebabFrom_eq_self {cs : List Char} (before : Before)
    (h : ∀ c ∈ cs, isBlank c = false ∧ lowerChar c = [c]) : kebabFrom before cs = cs := by
  induction cs generalizing before with
  | nil => rfl
  | cons c rest ih =>
      obtain ⟨⟨solid, own⟩, others⟩ := List.forall_mem_cons.mp h
      have alone : kebabChar before c = [c] := by
        simp [kebabChar, solid, not_isUpper_of_lowerChar own, own]
      rw [kebabFrom_cons, alone, ih _ others, List.singleton_append]

theorem kebab_eq_self {name : String}
    (h : ∀ c ∈ name.toList, isBlank c = false ∧ lowerChar c = [c]) : kebab name = name := by
  rw [kebab, kebabFrom_eq_self .other h, String.ofList_toList]

theorem settled_of_mem_kebab {name : String} {d : Char} (mem : d ∈ (kebab name).toList) :
    isBlank d = false ∧ lowerChar d = [d] := by
  refine ⟨not_isBlank_of_mem_kebab mem, ?_⟩
  rw [kebab, String.toList_ofList] at mem
  exact lowerChar_of_mem_kebabFrom mem

/-- Kebab case holds neither blanks nor ASCII capitals and is its own kebab case; the names in
kebab case are those that hold no blanks and only characters that are their own lower-case
forms. -/
theorem kebab_normal (name : String) :
    (∀ c ∈ (kebab name).toList, isBlank c = false ∧ c.isUpper = false) ∧
    kebab (kebab name) = kebab name ∧
    (kebab name = name ↔ ∀ c ∈ name.toList, isBlank c = false ∧ lowerChar c = [c]) := by
  refine ⟨?_, ?_, ?_, ?_⟩
  · intro c mem
    obtain ⟨solid, own⟩ := settled_of_mem_kebab mem
    exact ⟨solid, not_isUpper_of_lowerChar own⟩
  · exact kebab_eq_self fun c mem => settled_of_mem_kebab mem
  · intro fixed c mem
    rw [← fixed] at mem
    exact settled_of_mem_kebab mem
  · exact kebab_eq_self

/-! ## Names put together -/

/-- What stands before the next character once this part of a name is read. -/
def Before.past (before : Before) (cs : List Char) : Before :=
  cs.foldl (fun _ c => .after c) before

theorem Before.past_other (cs : List Char) :
    Before.past .other cs = (cs.getLast?.map Before.after).getD .other := by
  rcases List.eq_nil_or_concat cs with rfl | ⟨first, last, rfl⟩
  · rfl
  · simp [Before.past]

/-- The rest of a name is read on from what stands before it. -/
theorem kebabFrom_append (before : Before) (cs ds : List Char) :
    kebabFrom before (cs ++ ds) = kebabFrom before cs ++ kebabFrom (before.past cs) ds := by
  induction cs generalizing before with
  | nil => rfl
  | cons c rest ih =>
      rw [List.cons_append, kebabFrom_cons, kebabFrom_cons, ih, List.append_assoc]
      rfl

/-- A blank is no ASCII letter. -/
theorem letter_of_isBlank {c : Char} (h : isBlank c = true) :
    c.isUpper = false ∧ c.isLower = false := by
  rw [Bool.eq_false_iff, Bool.eq_false_iff, Ne, Ne, isUpper_iff, isLower_iff]
  simp only [isBlank, Bool.or_eq_true, Bool.and_eq_true, decide_eq_true_eq, beq_iff_eq] at h
  omega

/-- A character is written as at the start of a name, but for the hyphen that a lower-case
letter before it adds and a blank before it takes away. -/
theorem kebabChar_before (before : Before) (c : Char) : ∃ form,
    kebabChar before c = (if before = .lower ∧ c.isUpper then ['-'] else []) ++ form ∧
    kebabChar .other c = (if before = .blank ∧ isBlank c then ['-'] else []) ++ form := by
  cases blank : isBlank c with
  | true =>
      have upper : c.isUpper = false := (letter_of_isBlank blank).1
      refine ⟨if before = .blank then [] else ['-'], ?_, ?_⟩
      · simp [kebabChar, blank, upper]
      · by_cases again : before = .blank <;> simp [kebabChar, blank, again]
  | false =>
      refine ⟨lowerChar c, ?_, ?_⟩
      · by_cases boundary : before = .lower ∧ c.isUpper
        · simp [kebabChar, blank, boundary]
        · simp [kebabChar, blank, boundary, and_comm]
      · simp [kebabChar, blank]

theorem kebabFrom_before (before : Before) (ds : List Char) : ∃ rest,
    kebabFrom before ds =
      (if before = .lower ∧ ds.head?.any Char.isUpper then ['-'] else []) ++ rest ∧
    kebabFrom .other ds =
      (if before = .blank ∧ ds.head?.any isBlank then ['-'] else []) ++ rest := by
  cases ds with
  | nil => exact ⟨[], by simp, by simp⟩
  | cons d ds =>
      obtain ⟨form, here, first⟩ := kebabChar_before before d
      refine ⟨form ++ kebabFrom (.after d) ds, ?_, ?_⟩
      · rw [kebabFrom_cons, here, List.append_assoc]
        rfl
      · rw [kebabFrom_cons, first, List.append_assoc]
        rfl

/-- The text ends in a character of the class. -/
def EndsIn (kind : Char → Bool) (s : String) : Prop := s.toList.getLast?.any kind = true

/-- The text begins with a character of the class. -/
def BeginsWith (kind : Char → Bool) (s : String) : Prop := s.toList.head?.any kind = true

instance (kind : Char → Bool) (s : String) : Decidable (EndsIn kind s) :=
  inferInstanceAs (Decidable (_ = true))

instance (kind : Char → Bool) (s : String) : Decidable (BeginsWith kind s) :=
  inferInstanceAs (Decidable (_ = true))

theorem past_eq_blank_iff (s : String) :
    Before.past .other s.toList = .blank ↔ EndsIn isBlank s := by
  rw [Before.past_other, EndsIn]
  cases s.toList.getLast? with
  | none => simp
  | some c => cases blank : isBlank c <;> cases lower : c.isLower <;>
      simp [Before.after, blank, lower]

theorem past_eq_lower_iff (s : String) :
    Before.past .other s.toList = .lower ↔ EndsIn Char.isLower s := by
  rw [Before.past_other, EndsIn]
  cases s.toList.getLast? with
  | none => simp
  | some c =>
      cases blank : isBlank c with
      | true => simp [Before.after, blank, (letter_of_isBlank blank).2]
      | false => cases lower : c.isLower <;> simp [Before.after, blank, lower]

/-- Two names put together are written one after the other.  A hyphen comes between them where
an ASCII capital follows an ASCII lower-case letter, and the second one loses its leading hyphen
where blanks meet. -/
theorem kebab_append (s t : String) : ∃ rest,
    kebab (s ++ t) =
      kebab s ++ (if EndsIn Char.isLower s ∧ BeginsWith Char.isUpper t then "-" else "") ++ rest ∧
    kebab t = (if EndsIn isBlank s ∧ BeginsWith isBlank t then "-" else "") ++ rest := by
  obtain ⟨rest, here, first⟩ := kebabFrom_before (Before.past .other s.toList) t.toList
  simp only [past_eq_blank_iff, past_eq_lower_iff] at here first
  refine ⟨String.ofList rest, ?_, ?_⟩
  · rw [kebab, String.toList_append, kebabFrom_append, here]
    simp only [String.ofList_append, apply_ite String.ofList, String.append_assoc]
    rfl
  · rw [kebab, first, String.ofList_append]
    simp only [apply_ite String.ofList]
    rfl

end SchemaDto.Text
