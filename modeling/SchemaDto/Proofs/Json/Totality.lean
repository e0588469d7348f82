/-
# Every value has a text

A form is total where some tree of escapes renders every value, given room for a fixed
number of brackets (`Form.Total`).  Texts are total because every character can be spelled
by escapes, and records because they can be written as arrays.
-/
import SchemaDto.Proofs.Json.Printing
import SchemaDto.Proofs.Json.RecordForm

namespace SchemaDto.Json

/-! ## Strings of escapes -/

theorem SpellsChar.exists_escapes (c : Char) :
    ∃ pieces, SpellsChar c pieces ∧ ∀ piece ∈ pieces, piece.IsEscape := by
  obtain ⟨-, bound⟩ := toNat_not_surrogate c
  by_cases small : c.toNat < 0x10000
  · exact ⟨_, .unit small, List.forall_mem_singleton.mpr ⟨_, small, rfl⟩⟩
  · refine ⟨_, .pair (Nat.not_lt.mp small), List.forall_mem_cons.mpr ⟨?_, ?_⟩⟩
    · exact ⟨_, by omega, rfl⟩
    · exact List.forall_mem_singleton.mpr ⟨_, by omega, rfl⟩

/-- Every text is spelled by some literal of escapes. -/
theorem Literal.exists_escapes (text : String) :
    ∃ literal : Literal, literal.Denotes text ∧ ∀ piece ∈ literal, piece.IsEscape := by
  unfold Denotes
  induction text.toList with
  | nil => exact ⟨[], .nil, nofun⟩
  | cons c rest ih =>
      obtain ⟨pieces, first, escapes⟩ := SpellsChar.exists_escapes c
      obtain ⟨literal, later, others⟩ := ih
      exact ⟨pieces ++ literal, .cons first later, List.forall_mem_append.mpr ⟨escapes, others⟩⟩

/-! ## Trees of escapes -/

namespace Tree

/-- The tree can be written with escapes for all its characters. -/
def IsEscaped {part : Part} (tree : Tree part) : Prop := tree.IsSpelledBy Piece.IsEscape

theorem isEscaped_text {literal : Literal} (h : ∀ piece ∈ literal, piece.IsEscape) :
    (Tree.text literal).IsEscaped :=
  ⟨rfl, nofun, List.forall_mem_singleton.mpr h⟩

theorem isEscaped_array {nodes : List Node} (h : ∀ node ∈ nodes, node.IsEscaped) :
    (Tree.array (Tree.ofItems nodes)).IsEscaped := by
  have items : (Tree.ofItems nodes).IsEscaped := by
    induction nodes with
    | nil => exact ⟨rfl, nofun, nofun⟩
    | cons node rest ih =>
        obtain ⟨first, later⟩ := List.forall_mem_cons.mp h
        exact isSpelledBy_cons.mpr ⟨first, ih later⟩
  exact ⟨items.sound, items.numerals, items.literals⟩

theorem isEscaped_object {members : List (Literal × Node)}
    (h : ∀ member ∈ members, (∀ piece ∈ member.1, piece.IsEscape) ∧ member.2.IsEscaped) :
    (Tree.object (Tree.ofMembers members)).IsEscaped := by
  have inside : (Tree.ofMembers members).IsEscaped := by
    induction members with
    | nil => exact ⟨rfl, nofun, nofun⟩
    | cons member rest ih =>
        obtain ⟨first, later⟩ := List.forall_mem_cons.mp h
        exact isSpelledBy_member.mpr ⟨first.1, first.2, ih later⟩
  exact ⟨inside.sound, inside.numerals, inside.literals⟩

/-- The compact text of a tree of escapes is a text of the tree, in ASCII. -/
theorem IsEscaped.textOf_print {node : Node} (h : node.IsEscaped) :
    node.TextOf node.print ∧ IsAscii node.print :=
  ⟨Tree.textOf_print (h.mono fun _ => Piece.IsEscape.isPrintable), node.isAscii_print h⟩

end Tree

/-! ## Total forms -/

namespace Form

variable {α : Type}

/-- With room for that many brackets, some tree of escapes renders every value. -/
def Total (depth : Nat) (form : Form α) : Prop :=
  ∀ room value, depth ≤ room → ∃ node : Node, form room value node ∧ node.IsEscaped

theorem Total.mono {depth depth' : Nat} {form : Form α} (total : form.Total depth)
    (le : depth ≤ depth') : form.Total depth' :=
  fun room value enough => total room value (Nat.le_trans le enough)

theorem text_ne_null (room : Nat) (value : String) : ¬ text room value .null := by
  rintro ⟨literal, -, eq⟩
  cases eq

theorem boolean_ne_null (room : Nat) (value : Bool) : ¬ boolean room value .null := nofun

theorem dict_ne_null {form : Form α} (room : Nat) (values : Dict α) :
    ¬ form.dict room values .null := by
  rintro ⟨members, entries, inner, -, eq, -⟩
  cases eq

theorem text_total : text.Total 0 := by
  intro room value _
  obtain ⟨literal, denotes, escaped⟩ := Literal.exists_escapes value
  exact ⟨.text literal, ⟨literal, denotes, rfl⟩, Tree.isEscaped_text escaped⟩

theorem boolean_total : boolean.Total 0 :=
  fun _ value _ => ⟨.bool value, rfl, rfl, nofun, nofun⟩

theorem payload_total : payload.Total 0 := by
  intro room value _
  cases value with
  | false => exact ⟨.null, rfl, rfl, nofun, nofun⟩
  | true => exact ⟨.bool true, ⟨nofun, rfl, Nat.zero_le room, nofun, nofun⟩, rfl, nofun, nofun⟩

theorem nullable_total {depth : Nat} {form : Form α} (total : form.Total depth)
    (notNull : ∀ room value, ¬ form room value .null) : form.nullable.Total depth := by
  intro room value enough
  cases value with
  | none => exact ⟨.null, rfl, rfl, nofun, nofun⟩
  | some value =>
      obtain ⟨node, renders, escaped⟩ := total room value enough
      have ne : node ≠ .null := by
        rintro rfl
        exact notNull room value renders
      exact ⟨node, ⟨ne, renders⟩, escaped⟩

theorem choice_total {Names : α → String → Prop} (named : ∀ value, ∃ name, Names value name) :
    (choice Names).Total 0 := by
  intro room value _
  obtain ⟨name, named⟩ := named value
  obtain ⟨literal, denotes, escaped⟩ := Literal.exists_escapes name
  exact ⟨.text literal, ⟨name, literal, named, denotes, .inl rfl⟩, Tree.isEscaped_text escaped⟩

/-- Images of the members of a list, one by one. -/
theorem exists_forall₂ {β : Type _} {γ : Type} {R : β → γ → Prop} {P : γ → Prop} {values : List β}
    (h : ∀ value ∈ values, ∃ image, R value image ∧ P image) :
    ∃ images, List.Forall₂ R values images ∧ ∀ image ∈ images, P image := by
  induction values with
  | nil => exact ⟨[], .nil, nofun⟩
  | cons value rest ih =>
      obtain ⟨⟨image, related, holds⟩, later⟩ := List.forall_mem_cons.mp h
      obtain ⟨images, relatedLater, holdsLater⟩ := ih later
      exact ⟨image :: images, .cons related relatedLater,
        List.forall_mem_cons.mpr ⟨holds, holdsLater⟩⟩

theorem list_total {depth : Nat} {form : Form α} (total : form.Total depth) :
    form.list.Total (depth + 1) := by
  intro room values enough
  obtain ⟨inner, rfl⟩ : ∃ inner, room = inner + 1 := ⟨room - 1, by omega⟩
  obtain ⟨nodes, renders, escaped⟩ :=
    exists_forall₂ fun value (_ : value ∈ values) => total inner value (by omega)
  exact ⟨.array (Tree.ofItems nodes), ⟨nodes, inner, rfl, rfl, renders⟩,
    Tree.isEscaped_array escaped⟩

theorem dict_total {depth : Nat} {form : Form α} (total : form.Total depth) :
    form.dict.Total (depth + 1) := by
  intro room values enough
  obtain ⟨inner, rfl⟩ : ∃ inner, room = inner + 1 := ⟨room - 1, by omega⟩
  have entry : ∀ entry ∈ values.entries, ∃ member : Literal × Node,
      Form.entry form inner entry member ∧
        (∀ piece ∈ member.1, piece.IsEscape) ∧ member.2.IsEscaped := by
    intro entry _
    obtain ⟨key, denotes, escapes⟩ := Literal.exists_escapes entry.1
    obtain ⟨node, renders, escaped⟩ := total inner entry.2 (by omega)
    exact ⟨(key, node), ⟨denotes, renders⟩, escapes, escaped⟩
  obtain ⟨members, renders, escaped⟩ := exists_forall₂ entry
  exact ⟨.object (Tree.ofMembers members),
    ⟨members, values.entries, inner, rfl, rfl, .refl _, renders⟩,
    Tree.isEscaped_object escaped⟩

/-- A record is total where its slots are: it can be written as an array. -/
theorem record_total {depth : Nat} {slots : List (Slot α)}
    (total : ∀ slot ∈ slots, slot.form.Total depth) : (record slots).Total (depth + 1) := by
  intro room value enough
  obtain ⟨inner, rfl⟩ : ∃ inner, room = inner + 1 := ⟨room - 1, by omega⟩
  have slot : ∀ slot ∈ slots, ∃ node : Node, slot.Holds inner value node ∧ node.IsEscaped :=
    fun slot mem => total slot mem inner (slot.get value) (by omega)
  obtain ⟨nodes, renders, escaped⟩ := exists_forall₂ slot
  exact ⟨.array (Tree.ofItems nodes), .array renders, Tree.isEscaped_array escaped⟩

/-- Every value of a total form is rendered by some text. -/
theorem Total.exists_text {depth : Nat} {form : Form α} (total : form.Total depth)
    (enough : depth ≤ nestingLimit) (value : α) :
    ∃ (node : Node) (text : String),
      form nestingLimit value node ∧ node.TextOf (Text.bytes text) := by
  obtain ⟨node, renders, escaped⟩ := total nestingLimit value enough
  obtain ⟨written, ascii⟩ := escaped.textOf_print
  obtain ⟨text, eq⟩ := Text.exists_bytes_eq ascii
  rw [← eq] at written
  exact ⟨node, text, renders, written⟩

end Form

end SchemaDto.Json
