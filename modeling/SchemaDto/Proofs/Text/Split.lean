/-
# Texts around a part

A text of the form `before ++ mark :: after` is read back in one way only if
one of its sides is known to be free of the mark: the mark is then its first
or its last one.  A text joined from parts holds each of them.
-/

namespace SchemaDto.Text

/-! ## One mark -/

variable {α : Type} {mark : α}

/-- The first mark of a text tells its two sides. -/
theorem split_at_first {before before' after after' : List α}
    (h : mark ∉ before) (h' : mark ∉ before')
    (eq : before ++ mark :: after = before' ++ mark :: after') :
    before = before' ∧ after = after' := by
  induction before generalizing before' with
  | nil =>
      cases before' with
      | nil => exact ⟨rfl, List.cons.inj eq |>.2⟩
      | cons c rest =>
          obtain ⟨rfl, -⟩ := List.cons.inj eq
          exact absurd List.mem_cons_self h'
  | cons c rest ih =>
      cases before' with
      | nil =>
          obtain ⟨rfl, -⟩ := List.cons.inj eq
          exact absurd List.mem_cons_self h
      | cons c' rest' =>
          obtain ⟨rfl, tails⟩ := List.cons.inj eq
          obtain ⟨rfl, rfl⟩ := ih (fun mem => h (List.mem_cons_of_mem _ mem))
            (fun mem => h' (List.mem_cons_of_mem _ mem)) tails
          exact ⟨rfl, rfl⟩

/-- The last mark of a text tells its two sides: it is the first one of the
text read backwards. -/
theorem split_at_last {before before' after after' : List α}
    (h : mark ∉ after) (h' : mark ∉ after')
    (eq : before ++ mark :: after = before' ++ mark :: after') :
    before = before' ∧ after = after' := by
  have backwards : after.reverse ++ mark :: before.reverse =
      after'.reverse ++ mark :: before'.reverse := by
    simpa using congrArg List.reverse eq
  obtain ⟨ends, starts⟩ := split_at_first (by simpa using h) (by simpa using h') backwards
  exact ⟨List.reverse_inj.mp starts, List.reverse_inj.mp ends⟩

/-! ## Joined parts -/

/-- The text stands somewhere in the other one. -/
def Within (part text : String) : Prop :=
  ∃ before after, text = before ++ part ++ after

theorem within_intercalate {separator : String} {parts : List String} {part : String}
    (mem : part ∈ parts) : Within part (separator.intercalate parts) := by
  induction parts with
  | nil => cases mem
  | cons first rest ih =>
      rcases List.mem_cons.mp mem with rfl | later
      · cases rest with
        | nil => exact ⟨"", "", by simp⟩
        | cons second others =>
            refine ⟨"", separator ++ separator.intercalate (second :: others), ?_⟩
            rw [String.intercalate_cons_cons, String.empty_append, String.append_assoc]
      · obtain ⟨before, after, eq⟩ := ih later
        refine ⟨first ++ separator ++ before, after, ?_⟩
        rw [String.intercalate_cons_of_ne_nil (List.ne_nil_of_mem later), eq]
        simp only [String.append_assoc]

theorem Within.trans {part whole text : String} (inner : Within part whole)
    (outer : Within whole text) : Within part text := by
  obtain ⟨before, after, rfl⟩ := inner
  obtain ⟨first, last, rfl⟩ := outer
  exact ⟨first ++ before, after ++ last, by simp only [String.append_assoc]⟩

end SchemaDto.Text
