/-
# Segments of a path

A cut at slashes leaves pieces without a slash.  So a folder `domain/subfolder`
whose first part comes from such a cut is read back in one way only: its first
slash is the one that joined the two parts, whatever the second part holds.
-/
import SchemaDto.Proofs.Text.Split
import SchemaDto.Text.Basic

namespace SchemaDto.Text

/-! ## The pieces hold no slash -/

theorem slash_not_mem_of_mem_cutAtSlashes {cs piece : List Char} :
    piece ∈ cutAtSlashes cs → '/' ∉ piece := by
  induction cs generalizing piece with
  | nil =>
      intro h
      rw [List.mem_singleton.mp h]
      exact List.not_mem_nil
  | cons c rest ih =>
      intro h
      unfold cutAtSlashes at h
      split at h
      · rcases List.mem_cons.mp h with rfl | h
        · exact List.not_mem_nil
        · exact ih h
      · next hc =>
          -- `c` joins the first piece of the rest and leaves the others alone
          split at h
          · rw [List.mem_singleton.mp h]
            simpa using fun eq => hc eq.symm
          · next first others cut =>
              rw [cut] at ih
              rcases List.mem_cons.mp h with rfl | h
              · have := ih List.mem_cons_self
                simpa [this] using fun eq => hc eq.symm
              · exact ih (List.mem_cons_of_mem _ h)

theorem slash_not_mem_of_mem_segments {path segment : String}
    (h : segment ∈ segments path) : '/' ∉ segment.toList := by
  obtain ⟨piece, mem, rfl⟩ := List.mem_map.mp h
  rw [String.toList_ofList]
  exact slash_not_mem_of_mem_cutAtSlashes mem

/-! ## The first slash of a folder -/

theorem toList_slash (a b : String) :
    (a ++ "/" ++ b).toList = a.toList ++ '/' :: b.toList := by
  simp

/-- Two folders with the same text have the same parts, where the first parts
hold no slash.  Nothing is asked of the second parts. -/
theorem slash_inj {a b c d : String} (ha : '/' ∉ a.toList) (hc : '/' ∉ c.toList)
    (h : a ++ "/" ++ b = c ++ "/" ++ d) : a = c ∧ b = d := by
  have lists := congrArg String.toList h
  rw [toList_slash, toList_slash] at lists
  obtain ⟨first, rest⟩ := split_at_first ha hc lists
  exact ⟨String.toList_inj.mp first, String.toList_inj.mp rest⟩

theorem ne_slash {a b c : String} (ha : '/' ∉ a.toList) : a ≠ b ++ "/" ++ c := by
  rintro rfl
  exact ha (by simp)

/-! ## The first two segments -/

/-- The text before the first slash, or the whole path if it has none. -/
def beforeSlash (path : String) : String := String.ofList (path.toList.takeWhile (· != '/'))

/-- The text between the first slash and the second one, or the end of the path. -/
def betweenSlashes (path : String) : String :=
  String.ofList ((path.toList.dropWhile (· != '/')).tail.takeWhile (· != '/'))

/-- The first piece ends at the first slash, and the others are those of the rest. -/
theorem cutAtSlashes_eq (cs : List Char) :
    cutAtSlashes cs = cs.takeWhile (· != '/') ::
      (cs.dropWhile (· != '/')).tail?.elim [] cutAtSlashes := by
  induction cs with
  | nil => rfl
  | cons c rest ih =>
      unfold cutAtSlashes
      by_cases slash : c = '/'
      · simp [slash]
      · rw [if_neg slash, ih, List.takeWhile_cons_of_pos (by simpa using slash),
          List.dropWhile_cons_of_pos (by simpa using slash)]

theorem segments_eq_cons (path : String) : ∃ rest, segments path = beforeSlash path :: rest ∧
    rest.headD "" = betweenSlashes path := by
  unfold segments beforeSlash betweenSlashes
  rw [cutAtSlashes_eq]
  cases path.toList.dropWhile (· != '/') with
  | nil => exact ⟨[], rfl, rfl⟩
  | cons slash rest =>
      refine ⟨(cutAtSlashes rest).map String.ofList, rfl, ?_⟩
      rw [cutAtSlashes_eq]
      rfl

end SchemaDto.Text
