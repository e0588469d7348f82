/-
# Reading every text of a tree

The reader feeds the tokens of a text to a site one after the other.  The tokens of a
sound tree leave the site as if the tree had been delivered to it whole
(`Tree.delivers`), so every text of a tree is read as that tree (`read_of_textOf`).
-/
import SchemaDto.Json.Reading
import SchemaDto.Proofs.Json.Lexing

namespace SchemaDto.Json

/-- Reading bytes feeds the tokens that they complete to the site, in order. -/
theorem Reading.foldl_step {scan last : Scan} {bytes : List UInt8} {tokens : List Token}
    (h : scan.Yields bytes tokens last) (site : Site) :
    bytes.foldl Reading.step ⟨scan, site⟩ = ⟨last, tokens.foldl Site.push site⟩ := by
  induction h generalizing site with
  | nil => rfl
  | cons first _ ih =>
      rw [List.foldl_cons, Reading.step, first, List.foldl_append]
      exact ih _

/-- At the end of a text a numeral counts as complete. -/
theorem Reading.finish_of_spells {bytes : List UInt8} {tokens : List Token}
    (h : Spells bytes tokens) (site : Site) :
    (bytes.foldl Reading.step ⟨.gap, site⟩).finish = (tokens.foldl Site.push site).finish := by
  cases h with
  | closed h => rw [foldl_step h]; rfl
  | pending h ends all =>
      rw [foldl_step h, all, List.foldl_append, finish, Scan.finish, if_pos ends]

namespace Tree

/-- What the tokens of a tree do to a site.  Of a list, they follow on what its bracket
holds so far, and the bracket closes after them. -/
def Delivers : ∀ {part : Part}, Tree part → Prop
  | .value, node => ∀ frames,
    node.tokens.foldl Site.push (.beforeValue frames) = .deliver node frames
  | .items, items => ∀ before frames,
    (items.separator ++ (items.tokens ++ [Token.closeArray])).foldl Site.push
        (.afterItem before frames) =
      .deliver (.array (before.foldl (fun tail head => .cons head tail) items)) frames
  | .members, members => ∀ before frames,
    (members.separator ++ (members.tokens ++ [Token.closeObject])).foldl Site.push
        (.afterMember before frames) =
      .deliver (.object (ofReversedMembers before members)) frames

/-- The first element of an array stands where any other one would. -/
theorem foldl_push_beforeFirstItem (node : Node) (frames : List Frame) :
    node.tokens.foldl Site.push (.beforeFirstItem frames) =
      node.tokens.foldl Site.push (.beforeValue (.items [] :: frames)) := by
  cases node <;> rfl

/-- The tokens of a sound tree deliver it. -/
theorem delivers {part : Part} (tree : Tree part) (sound : tree.isSound = true) :
    tree.Delivers := by
  induction tree with
  | fault | keyless => cases sound
  | null | bool | number | text => intro frames; rfl
  | array items ih =>
      intro frames
      cases items with
      | nil => rfl
      | cons head tail =>
          have all := ih sound [] frames
          simp only [tokens, separator, List.append_assoc, List.foldl_append] at all
          simp only [tokens, List.append_assoc, List.foldl_cons, List.foldl_append,
            Site.push, Site.onValue, foldl_push_beforeFirstItem]
          exact all
  | object members ih =>
      intro frames
      cases members with
      | done => rfl
      | member key value tail => exact ih sound [] frames
      | keyless => cases sound
  | nil | done => intro before frames; rfl
  | cons head tail ih ih' =>
      intro before frames
      obtain ⟨headSound, tailSound⟩ := Bool.and_eq_true_iff.mp sound
      have first := ih headSound (.items before :: frames)
      have rest := ih' tailSound (head :: before) frames
      simp only [List.foldl_append] at rest
      simp only [separator, tokens, List.append_assoc, List.foldl_append, List.foldl_cons,
        List.foldl_nil, Site.push, first, Site.deliver]
      exact rest
  | member key value tail ih ih' =>
      intro before frames
      obtain ⟨valueSound, tailSound⟩ := Bool.and_eq_true_iff.mp sound
      have first := ih valueSound (.member before key :: frames)
      have rest := ih' tailSound ((key, value) :: before) frames
      simp only [List.foldl_append] at rest
      simp only [separator, tokens, List.append_assoc, List.cons_append, List.foldl_append,
        List.foldl_cons, List.foldl_nil, Site.push, Site.onKey, first, Site.deliver]
      exact rest

end Tree

/-- Every text of a tree is read as that tree, up to its end. -/
theorem read_of_textOf {node : Node} {bytes : List UInt8} (h : node.TextOf bytes) :
    read bytes = (node, true) := by
  obtain ⟨before, body, after, blanks, blanks', written, rfl⟩ := h
  have spells : Spells (before ++ body ++ after) node.tokens :=
    (Spells.after blanks.yields written.spells).blanks blanks'
  have delivered := node.delivers written.isSound []
  rw [read, Reading.start, Reading.finish_of_spells spells, delivered]
  rfl

end SchemaDto.Json
