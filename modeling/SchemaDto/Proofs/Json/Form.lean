/-
# Forms of values

A form says which trees render a value, where only so many brackets may still be
opened.  It allows every spelling: any way to write a string, a choice by its name alone
or as the key of an object, the entries of a dictionary in any order.  A decoder reads a
form if it turns every tree that renders a value into that value (`Reads`).
-/
import Mathlib.Data.List.Forall2
import SchemaDto.Json.Decode
import SchemaDto.Json.Print
import SchemaDto.Proofs.Fallible
import SchemaDto.Proofs.Json.Literals
import SchemaDto.Proofs.Json.Plain
import SchemaDto.Proofs.Json.Reading
import SchemaDto.Proofs.Order.Dict

namespace SchemaDto.Json

/-- Which trees render a value, where at most `room` brackets may be opened. -/
abbrev Form (α : Type) := (room : Nat) → α → Node → Prop

variable {α : Type}

/-- The decoder turns whatever renders a value into that value. -/
def Reads (decoder : Decoder α) (form : Form α) : Prop :=
  ∀ (room : Nat) (value : α) (node : Node), form room value node → decoder room node = .ok value

/-- A decoder that reads a form decodes every text that renders a value as that value. -/
theorem decode_of_reads {decoder : Decoder α} {form : Form α} (reads : Reads decoder form)
    {value : α} {node : Node} {bytes : List UInt8} (renders : form nestingLimit value node)
    (text : node.TextOf bytes) : decode decoder bytes = .ok value := by
  rw [decode, read_of_textOf text]
  simp only [reads nestingLimit value node renders, if_true]

namespace Form

/-- A text, spelled in any way. -/
def text : Form String := fun _ value node =>
  ∃ literal : Literal, literal.Denotes value ∧ node = .text literal

theorem text_ofText (room : Nat) (value : String) : text room value (.ofText value) :=
  ⟨_, Literal.denotes_ofText value, rfl⟩

/-- A truth value. -/
def boolean : Form Bool := fun _ value node => node = .bool value

/-- `null` stands for no value. -/
def nullable (form : Form α) : Form (Option α) := fun room value node =>
  match value with
  | none => node = .null
  | some value => node ≠ .null ∧ form room value node

/-- An array with the elements in order. -/
def list (form : Form α) : Form (List α) := fun room values node =>
  ∃ nodes inner, room = inner + 1 ∧ node = .array (Tree.ofItems nodes) ∧
    List.Forall₂ (form inner) values nodes

/-- The member renders the entry. -/
def entry (form : Form α) (room : Nat) (entry : String × α) (member : Literal × Node) : Prop :=
  member.1.Denotes entry.1 ∧ form room entry.2 member.2

/-- An object with the entries in any order. -/
def dict (form : Form α) : Form (Dict α) := fun room values node =>
  ∃ members entries inner, room = inner + 1 ∧ node = .object (Tree.ofMembers members) ∧
    entries.Perm values.entries ∧ List.Forall₂ (Form.entry form inner) entries members

/-- A name of the value, alone or as the key of an object with nothing else in it but a
`null`. -/
def choice (Names : α → String → Prop) : Form α := fun room value node =>
  ∃ (name : String) (literal : Literal), Names value name ∧ literal.Denotes name ∧
    (node = .text literal ∨ 0 < room ∧ node = .object (.member literal .null .done))

/-- The tree is some value other than `null`: its brackets fit into the room, its numerals
have values, integers of 64 bits or finite doubles, and its strings are texts. -/
structure IsPayload (room : Nat) (node : Node) : Prop where
  notNull : node ≠ .null
  sound : node.isSound = true
  nesting : node.depth ≤ room
  finite : ∀ numeral ∈ node.numerals, numeral.number?.isSome = true
  texts : ∀ literal ∈ node.literals, ∃ value, literal.Denotes value

/-- Whether there is a value, of which nothing else counts. -/
def payload : Form Bool := fun room isPresent node =>
  match isPresent with
  | true => IsPayload room node
  | false => node = .null

end Form

/-! ## Decoders of values -/

theorem Tree.ofItems_nil : ofItems [] = .nil := rfl

theorem Tree.ofItems_cons (head : Node) (tail : List Node) :
    ofItems (head :: tail) = .cons head (ofItems tail) := rfl

theorem Tree.ofMembers_nil : ofMembers [] = .done := rfl

theorem Tree.ofMembers_cons (member : Literal × Node) (tail : List (Literal × Node)) :
    ofMembers (member :: tail) = .member member.1 member.2 (ofMembers tail) := rfl

/-- The text of a literal that denotes one. -/
theorem literalText_of_denotes {literal : Literal} {text : String} (h : literal.Denotes text) :
    literalText literal = .ok text := by
  rw [literalText, Literal.text?_of_denotes h]

namespace Decode

theorem text_reads : Reads text Form.text := by
  rintro room value node ⟨literal, denotes, rfl⟩
  exact literalText_of_denotes denotes

theorem boolean_reads : Reads boolean Form.boolean := by
  rintro room value node rfl
  rfl

theorem nullable_reads {decoder : Decoder α} {form : Form α} (reads : Reads decoder form) :
    Reads (nullable decoder) (form.nullable) := by
  intro room value node h
  cases value with
  | none => cases h; rfl
  | some value =>
      obtain ⟨notNull, h⟩ := h
      rw [nullable.eq_2 _ _ _ notNull, reads room value node h]
      rfl

theorem elements_ofItems {decoder : Decoder α} {form : Form α} (reads : Reads decoder form)
    {room : Nat} {values : List α} {nodes : List Node}
    (h : List.Forall₂ (form room) values nodes) :
    elements decoder room (Tree.ofItems nodes) = .ok values := by
  induction h with
  | nil => rw [Tree.ofItems_nil, elements]
  | cons first _ ih =>
      rw [Tree.ofItems_cons, elements, reads _ _ _ first, ih]
      rfl

theorem list_reads {decoder : Decoder α} {form : Form α} (reads : Reads decoder form) :
    Reads (list decoder) form.list := by
  rintro room values node ⟨nodes, inner, rfl, rfl, h⟩
  exact elements_ofItems reads h

theorem entries_ofMembers {decoder : Decoder α} {form : Form α} (reads : Reads decoder form)
    {room : Nat} {entries : List (String × α)} {members : List (Literal × Node)}
    (h : List.Forall₂ (Form.entry form room) entries members) (dict : Dict α) :
    Decode.entries decoder room dict (Tree.ofMembers members) =
      .ok (entries.foldl (fun dict entry => dict.insert entry.1 entry.2) dict) := by
  induction h generalizing dict with
  | nil => rw [Tree.ofMembers_nil, Decode.entries, List.foldl_nil]
  | cons first _ ih =>
      rw [Tree.ofMembers_cons, Decode.entries, literalText_of_denotes first.1,
        reads _ _ _ first.2]
      exact ih _

theorem dict_reads {decoder : Decoder α} {form : Form α} (reads : Reads decoder form) :
    Reads (dict decoder) form.dict := by
  rintro room values node ⟨members, entries, inner, rfl, rfl, perm, h⟩
  have read := entries_ofMembers reads h .empty
  rw [← Dict.ofList, Dict.ofList_of_perm perm] at read
  exact read

theorem variant_reads {choose : String → Except Fault α} {Names : α → String → Prop}
    (chosen : ∀ {value name}, Names value name → choose name = .ok value) :
    Reads (variant choose) (Form.choice Names) := by
  rintro room value node ⟨name, literal, named, denotes, rfl | ⟨positive, rfl⟩⟩
  · rw [variant, literalText_of_denotes denotes]
    exact chosen named
  · obtain ⟨inner, rfl⟩ := Nat.exists_eq_succ_of_ne_zero (Nat.ne_of_gt positive)
    simp only [variant, enter, literalText_of_denotes denotes]
    change (choose name >>= _) = _
    rw [chosen named]
    rfl

theorem presence_reads : Reads presence Form.payload := by
  intro room isPresent node h
  cases isPresent with
  | false => cases h; rfl
  | true =>
      have plain : node.isPlain room = true := by
        refine (node.isPlain_iff room).mpr ⟨h.sound, h.nesting, h.finite, ?_⟩
        intro literal mem
        obtain ⟨value, denotes⟩ := h.texts literal mem
        rw [Literal.text?_of_denotes denotes]
        rfl
      rw [presence.eq_2 _ _ h.notNull, if_pos plain]

end Decode

end SchemaDto.Json
