/-
# Plain trees

A tree is plain where it is sound, nests no deeper than allowed, has numbers for
numerals and texts for literals (`Tree.isPlain_iff`): what a decoder checks of a value
that it does not look into.
-/
import SchemaDto.Json.Tree

namespace SchemaDto.Json

namespace Tree

/-- How many brackets are open where the most are. -/
def depth : ∀ {part : Part}, Tree part → Nat
  | _, .array items => items.depth + 1
  | _, .object members => members.depth + 1
  | _, .cons head tail => max head.depth tail.depth
  | _, .member _ value tail => max value.depth tail.depth
  | _, _ => 0

/-- The numerals of a tree, in the order of the text. -/
def numerals : ∀ {part : Part}, Tree part → List Numeral
  | _, .number numeral => [numeral]
  | _, .array items => items.numerals
  | _, .object members => members.numerals
  | _, .cons head tail => head.numerals ++ tail.numerals
  | _, .member _ value tail => value.numerals ++ tail.numerals
  | _, _ => []

/-- The literals of a tree, those of its keys among them, in the order of the text. -/
def literals : ∀ {part : Part}, Tree part → List Literal
  | _, .text literal => [literal]
  | _, .array items => items.literals
  | _, .object members => members.literals
  | _, .cons head tail => head.literals ++ tail.literals
  | _, .member key value tail => key :: (value.literals ++ tail.literals)
  | _, _ => []

theorem isPlain_iff {part : Part} (tree : Tree part) (room : Nat) :
    tree.isPlain room = true ↔
      tree.isSound = true ∧ tree.depth ≤ room ∧
        (∀ numeral ∈ tree.numerals, numeral.number?.isSome = true) ∧
        ∀ literal ∈ tree.literals, literal.text?.isSome = true := by
  induction tree generalizing room with
  | fault | keyless | null | bool | number | text | nil | done =>
      simp [isPlain, isSound, depth, numerals, literals]
  | array inside ih | object inside ih =>
      cases room with
      | zero => simp [isPlain, depth]
      | succ room => simp [isPlain, isSound, depth, numerals, literals, ih]
  | cons head tail ih ih' =>
      simp only [isPlain, isSound, depth, numerals, literals, Bool.and_eq_true, ih, ih',
        Nat.max_le, List.forall_mem_append]
      grind
  | member key value tail ih ih' =>
      simp only [isPlain, isSound, depth, numerals, literals, Bool.and_eq_true, ih, ih',
        Nat.max_le, List.forall_mem_append, List.forall_mem_cons]
      grind

end Tree

end SchemaDto.Json
