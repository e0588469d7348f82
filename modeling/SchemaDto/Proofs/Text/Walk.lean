/-
# Where a path leads

A path is followed segment by segment: empty segments and `.` stay where one is, `..`
goes to the folder above, and every other segment enters a folder.  Above the place
where the path begins nothing is known, so steps up from there are kept as they are.

Going back up as many times as a path has segments leads to where the path began
exactly if none of its segments is `.` or `..` (`climbed_iff`): a step up undoes one
folder that was entered, and these two segments enter none.
-/
import SchemaDto.Proofs.Text.Path

namespace SchemaDto.Text

/-! ## Segments of joined paths -/

theorem cutAtSlashes_ne_nil (cs : List Char) : cutAtSlashes cs ≠ [] := by
  cases cs with
  | nil => exact List.cons_ne_nil _ _
  | cons c rest =>
      unfold cutAtSlashes
      split
      · exact List.cons_ne_nil _ _
      · split <;> exact List.cons_ne_nil _ _

theorem cutAtSlashes_append (cs others : List Char) :
    cutAtSlashes (cs ++ '/' :: others) = cutAtSlashes cs ++ cutAtSlashes others := by
  induction cs with
  | nil => rfl
  | cons c rest ih =>
      by_cases slash : c = '/'
      · simp only [List.cons_append, cutAtSlashes, if_pos slash, ih]
      · cases cut : cutAtSlashes rest with
        | nil => exact absurd cut (cutAtSlashes_ne_nil rest)
        | cons first later =>
            simp only [List.cons_append, cutAtSlashes, if_neg slash, ih, cut]

/-- The segments of a path in a folder are those of the folder and its own. -/
theorem segments_slash (folder path : String) :
    segments (folder ++ "/" ++ path) = segments folder ++ segments path := by
  rw [segments, toList_slash, cutAtSlashes_append, List.map_append]
  rfl

theorem segments_of_not_mem {name : String} (h : '/' ∉ name.toList) : segments name = [name] := by
  rw [segments, cutAtSlashes_of_not_mem h, List.map_singleton, String.ofList_toList]

/-! ## Following a path -/

/-- The folder above a place.  A place is the list of the folders that were entered,
the innermost first, after the steps up from the beginning. -/
def above : List String → List String
  | [] => [".."]
  | inner :: outer => if inner = ".." then ".." :: inner :: outer else outer

/-- Where a segment leads from a place. -/
def follow (place : List String) (segment : String) : List String :=
  if segment = "" ∨ segment = "." then place
  else if segment = ".." then above place
  else segment :: place

/-- The place that a path leads to, the outermost folder first. -/
def normalize (path : String) : List String :=
  ((segments path).foldl follow []).reverse

/-- The segment is a name: it leads into the folder or to the module of this name. -/
def Enters (segment : String) : Prop := segment ≠ "" ∧ segment ≠ "." ∧ segment ≠ ".."

instance (segment : String) : Decidable (Enters segment) :=
  inferInstanceAs (Decidable (_ ∧ _ ∧ _))

theorem follow_enters {segment : String} (h : Enters segment) (place : List String) :
    follow place segment = segment :: place := by
  obtain ⟨notEmpty, notHere, notUp⟩ := h
  rw [follow, if_neg (not_or.mpr ⟨notEmpty, notHere⟩), if_neg notUp]

theorem follow_here (place : List String) : follow place "." = place :=
  if_pos (.inr rfl)

theorem follow_up (place : List String) : follow place ".." = above place := rfl

/-! ## How far a place is from the beginning -/

/-- The height of a place: the folders that were entered, less the steps up. -/
def height : List String → Int
  | [] => 0
  | inner :: outer => (if inner = ".." then -1 else 1) + height outer

/-- What a segment adds to the height. -/
def rise (segment : String) : Int :=
  if segment = "" ∨ segment = "." then 0 else if segment = ".." then -1 else 1

/-- What the segments add to the height together. -/
def ascent : List String → Int
  | [] => 0
  | segment :: rest => rise segment + ascent rest

theorem height_cons (inner : String) (outer : List String) :
    height (inner :: outer) = (if inner = ".." then -1 else 1) + height outer := rfl

theorem ascent_cons (segment : String) (rest : List String) :
    ascent (segment :: rest) = rise segment + ascent rest := rfl

/-- A step up costs the same from every place: it leaves a folder or is kept. -/
theorem height_above (place : List String) : height (above place) = height place - 1 := by
  cases place with
  | nil => rfl
  | cons inner outer =>
      by_cases outside : inner = ".."
      · rw [above, if_pos outside, height_cons, if_pos rfl]
        omega
      · rw [above, if_neg outside, height_cons, if_neg outside]
        omega

theorem height_follow (place : List String) (segment : String) :
    height (follow place segment) = height place + rise segment := by
  by_cases stays : segment = "" ∨ segment = "."
  · rw [follow, rise, if_pos stays, if_pos stays, Int.add_zero]
  · by_cases up : segment = ".."
    · rw [follow, rise, if_neg stays, if_neg stays, if_pos up, if_pos up, height_above]
      rfl
    · rw [follow, rise, if_neg stays, if_neg stays, if_neg up, if_neg up, height_cons, if_neg up,
        Int.add_comm]

theorem height_walk (place segments : List String) :
    height (segments.foldl follow place) = height place + ascent segments := by
  induction segments generalizing place with
  | nil => exact (Int.add_zero _).symm
  | cons segment rest ih => rw [List.foldl_cons, ih, height_follow, ascent_cons, Int.add_assoc]

/-! ## Going back up -/

/-- The number of segments that are not empty. -/
def depth (segments : List String) : Nat := (segments.filter (· != "")).length

/-- The place after following the segments, and then going up once for each of them. -/
def climbed (segments place : List String) : List String :=
  (List.replicate (depth segments) "..").foldl follow (segments.foldl follow place)

theorem ascent_replicate_up (n : Nat) : ascent (List.replicate n "..") = -(n : Int) := by
  induction n with
  | zero => rfl
  | succ n ih =>
      have up : rise ".." = -1 := by decide
      rw [List.replicate_succ, ascent_cons, ih, up]
      omega

/-- A path adds at most its depth to the height, and all of it only if none of its
segments is `.` or `..`. -/
theorem ascent_le_depth (segments : List String) : ascent segments ≤ depth segments ∧
    (ascent segments = depth segments → "." ∉ segments ∧ ".." ∉ segments) := by
  induction segments with
  | nil => exact ⟨Int.le_refl 0, fun _ => ⟨List.not_mem_nil, List.not_mem_nil⟩⟩
  | cons segment rest ih =>
      obtain ⟨le, tight⟩ := ih
      -- a segment adds to the height at most what it adds to the depth
      have own : rise segment ≤ depth [segment] ∧ (rise segment = depth [segment] →
          segment ≠ "." ∧ segment ≠ "..") := by
        by_cases empty : segment = ""
        · subst empty; decide
        · by_cases here : segment = "."
          · subst here; decide
          · by_cases up : segment = ".."
            · subst up; decide
            · have depthOne : depth [segment] = 1 := by simp [depth, empty]
              simp [rise, empty, here, up, depthOne]
      have split : depth (segment :: rest) = depth [segment] + depth rest := by
        rw [depth, ← List.singleton_append, List.filter_append, List.length_append]
        rfl
      rw [ascent_cons, split]
      refine ⟨by omega, fun eq => ?_⟩
      obtain ⟨notHere, notUp⟩ := own.2 (by omega)
      obtain ⟨noHere, noUp⟩ := tight (by omega)
      exact ⟨List.not_mem_cons_of_ne_of_not_mem notHere.symm noHere,
        List.not_mem_cons_of_ne_of_not_mem notUp.symm noUp⟩

/-- Without `.` and `..` among the segments, each one that is not empty enters a
folder. -/
theorem walk_eq {segments : List String} (noHere : "." ∉ segments) (noUp : ".." ∉ segments)
    (place : List String) :
    segments.foldl follow place = (segments.filter (· != "")).reverse ++ place := by
  induction segments generalizing place with
  | nil => rfl
  | cons segment rest ih =>
      obtain ⟨notHere, noHere⟩ := List.ne_and_not_mem_of_not_mem_cons noHere
      obtain ⟨notUp, noUp⟩ := List.ne_and_not_mem_of_not_mem_cons noUp
      rw [List.foldl_cons, ih noHere noUp]
      by_cases empty : segment = ""
      · rw [follow, if_pos (.inl empty), List.filter_cons_of_neg (by simp [empty])]
      · rw [follow_enters ⟨empty, notHere.symm, notUp.symm⟩,
          List.filter_cons_of_pos (by simp [empty]), List.reverse_cons, List.append_assoc,
          List.singleton_append]

theorem climb_eq {folders : List String} (noUp : ".." ∉ folders) (place : List String) :
    (List.replicate folders.length "..").foldl follow (folders ++ place) = place := by
  induction folders with
  | nil => rfl
  | cons inner outer ih =>
      obtain ⟨notUp, noUp⟩ := List.ne_and_not_mem_of_not_mem_cons noUp
      rw [List.length_cons, List.replicate_succ, List.foldl_cons, List.cons_append,
        follow_up, above, if_neg notUp.symm, ih noUp]

/-- Going up once for each segment leads back exactly if every segment entered a
folder. -/
theorem climbed_iff (segments : List String) :
    climbed segments [] = [] ↔ "." ∉ segments ∧ ".." ∉ segments := by
  constructor
  · intro back
    have level := congrArg height back
    rw [climbed, height_walk, height_walk, ascent_replicate_up] at level
    have none : height [] = 0 := rfl
    exact (ascent_le_depth segments).2 (by omega)
  · rintro ⟨noHere, noUp⟩
    have noUp' : ".." ∉ (segments.filter (· != "")).reverse := by
      rw [List.mem_reverse]
      exact fun mem => noUp (List.mem_filter.mp mem).1
    rw [climbed, walk_eq noHere noUp, depth, ← List.length_reverse]
    exact climb_eq noUp' []

end SchemaDto.Text
