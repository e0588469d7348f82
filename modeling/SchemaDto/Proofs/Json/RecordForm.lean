/-
# Forms of records

A record is seen through slots, one for each field that its form knows.  It is written
as an object or as an array.  An object holds the slots by name in any order, among any
number of members that the record does not know, and may leave out a slot that holds its
default; an array holds all slots in their order.

A decoder whose fields fit the slots one by one reads every such tree
(`Record.Fits.reads`): as long as the members last, the slots seen so far hold what the
record holds, and all the others are blank (`Filled`).
-/
import Mathlib.Data.List.Nodup
import SchemaDto.Json.Record
import SchemaDto.Proofs.Json.Form

namespace SchemaDto.Json

variable {α : Type}

/-- A field of a record as its form knows it: its name, its value, what renders the
value, and the value that may be left out. -/
structure Slot (α : Type) where
  key : String
  {Value : Type}
  get : α → Value
  form : Form Value
  default? : Option Value := none

/-- The tree renders the record's value in the slot. -/
def Slot.Holds (slot : Slot α) (room : Nat) (record : α) (node : Node) : Prop :=
  slot.form room (slot.get record) node

/-- The names of slots. -/
def keysOf (slots : List (Slot α)) : List String := slots.map (·.key)

namespace Form

/-- What may stand under a name in an object: what renders the slot of that name, or
anything where there is none. -/
structure IsMember (slots : List (Slot α)) (room : Nat) (record : α) (name : String)
    (member : Literal × Node) : Prop where
  key : member.1.Denotes name
  known : ∀ slot ∈ slots, slot.key = name → slot.Holds room record member.2
  unknown : name ∉ keysOf slots → member.2.isSound = true

/-- The forms of a record. -/
inductive record (slots : List (Slot α)) : Form α where
  | object {room : Nat} {value : α} {names : List String} {members : List (Literal × Node)}
      (each : List.Forall₂ (IsMember slots room value) names members)
      (once : (names.filter (· ∈ keysOf slots)).Nodup)
      (missing : ∀ slot ∈ slots, slot.key ∉ names → slot.default? = some (slot.get value)) :
      record slots (room + 1) value (.object (Tree.ofMembers members))
  | array {room : Nat} {value : α} {nodes : List Node}
      (each : List.Forall₂ (fun slot node => slot.Holds room value node) slots nodes) :
      record slots (room + 1) value (.array (Tree.ofItems nodes))

end Form

/-! ## Fields that fit slots -/

/-- The field reads whatever renders the slot, and what it changes then is that slot and
no other one. -/
structure RecordField.Fits (field : RecordField α) (slots : List (Slot α)) (slot : Slot α) :
    Prop where
  key : field.key = slot.key
  isRequired : field.isRequired = slot.default?.isNone
  decode : ∀ room value node, slot.Holds room value node → ∃ change : α → α,
    field.decode room node = .ok change ∧ ∀ current,
      slot.get (change current) = slot.get value ∧
        ∀ other ∈ slots, other.key ≠ slot.key → other.get (change current) = other.get current

/-- The fields of the record fit the slots one by one.  Together the slots hold all of a
record, and the blank one holds their defaults. -/
structure Record.Fits (record : Record α) (slots : List (Slot α)) : Prop where
  fields : List.Forall₂ (fun field slot => field.Fits slots slot) record.fields slots
  distinct : (keysOf slots).Nodup
  blank : ∀ slot ∈ slots, ∀ value, slot.default? = some value → slot.get record.blank = value
  ext : ∀ a b, (∀ slot ∈ slots, slot.get a = slot.get b) → a = b

section Fields

variable {β : Type} {key : String} {decoder : Decoder β} {form : Form β} {get : α → β}
  {set : β → α → α} {slots : List (Slot α)}

/-- The field reads its value and puts it into the record. -/
theorem RecordField.of_decode (reads : Reads decoder form)
    (get_set : ∀ new current, get (set new current) = new)
    (get_other : ∀ other ∈ slots, other.key ≠ key →
      ∀ new current, other.get (set new current) = other.get current)
    {room : Nat} {value : α} {node : Node} (holds : form room (get value) node) :
    ∃ change : α → α, (RecordField.of key decoder set).decode room node = .ok change ∧
      ∀ current, get (change current) = get value ∧
        ∀ other ∈ slots, other.key ≠ key → other.get (change current) = other.get current := by
  refine ⟨set (get value), ?_, fun current => ⟨get_set _ current, ?_⟩⟩
  · change (decoder room node).map set = _
    rw [reads room (get value) node holds]
    rfl
  · intro other mem ne
    exact get_other other mem ne (get value) current

/-- A field that may be left out fits a slot with a default. -/
theorem RecordField.Fits.of {default : β} (reads : Reads decoder form)
    (get_set : ∀ new current, get (set new current) = new)
    (get_other : ∀ other ∈ slots, other.key ≠ key →
      ∀ new current, other.get (set new current) = other.get current) :
    (RecordField.of key decoder set).Fits slots ⟨key, get, form, some default⟩ where
  key := rfl
  isRequired := rfl
  decode _ _ _ holds := of_decode reads get_set get_other holds

/-- A required field fits a slot without a default. -/
theorem RecordField.Fits.required (reads : Reads decoder form)
    (get_set : ∀ new current, get (set new current) = new)
    (get_other : ∀ other ∈ slots, other.key ≠ key →
      ∀ new current, other.get (set new current) = other.get current) :
    (RecordField.of key decoder set).required.Fits slots ⟨key, get, form, none⟩ where
  key := rfl
  isRequired := rfl
  decode _ _ _ holds := of_decode reads get_set get_other holds

end Fields

/-- The slots of the names seen so far hold what they hold in the record, the others are
as in the blank one. -/
def Filled (slots : List (Slot α)) (blank value current : α) (seen : List String) : Prop :=
  ∀ slot ∈ slots, (slot.key ∈ seen → slot.get current = slot.get value) ∧
    (slot.key ∉ seen → slot.get current = slot.get blank)

/-- The names of the members that are left: no slot has its name among them twice or had
it before, and a slot that stays unseen holds its default. -/
structure Pending (slots : List (Slot α)) (value : α) (seen names : List String) : Prop where
  once : (names.filter (· ∈ keysOf slots)).Nodup
  fresh : ∀ name ∈ names, name ∈ keysOf slots → name ∉ seen
  missing : ∀ slot ∈ slots, slot.key ∉ seen → slot.key ∉ names →
    slot.default? = some (slot.get value)

namespace Pending

variable {slots : List (Slot α)} {value : α} {seen names : List String} {name : String}

/-- A member that the record does not know is passed over. -/
theorem skip (h : Pending slots value seen (name :: names)) (unknown : name ∉ keysOf slots) :
    Pending slots value seen names where
  once := by
    have once := h.once
    rwa [List.filter_cons_of_neg (by simpa using unknown)] at once
  fresh other mem := h.fresh other (List.mem_cons_of_mem _ mem)
  missing slot mem notSeen notNamed := by
    refine h.missing slot mem notSeen fun named => ?_
    rcases List.mem_cons.mp named with rfl | named
    · exact unknown (List.mem_map_of_mem mem)
    · exact notNamed named

/-- A slot's member is seen from then on. -/
theorem take (h : Pending slots value seen (name :: names)) (known : name ∈ keysOf slots) :
    Pending slots value (name :: seen) names := by
  obtain ⟨once, fresh, missing⟩ := h
  rw [List.filter_cons_of_pos (by simpa using known), List.nodup_cons] at once
  refine ⟨once.2, ?_, ?_⟩
  · intro other mem isKey
    rw [List.mem_cons, not_or]
    refine ⟨?_, fresh other (List.mem_cons_of_mem _ mem) isKey⟩
    rintro rfl
    exact once.1 (List.mem_filter.mpr ⟨mem, by simpa using isKey⟩)
  · intro slot mem notSeen notNamed
    rw [List.mem_cons, not_or] at notSeen
    refine missing slot mem notSeen.2 fun named => ?_
    exact (List.mem_cons.mp named).elim notSeen.1 notNamed

end Pending

namespace Record

variable {record : Record α} {slots : List (Slot α)}

/-- A name without a field is the name of no slot. -/
theorem key_ne_of_field?_eq_none {fields : List (RecordField α)} {slots' : List (Slot α)}
    (fits : List.Forall₂ (fun field slot => field.Fits slots slot) fields slots') {name : String}
    (h : fields.find? (·.key == name) = none) : name ∉ keysOf slots' := by
  induction fits with
  | nil => exact List.not_mem_nil
  | cons first _ ih =>
      rw [List.find?_eq_none, List.forall_mem_cons, ← List.find?_eq_none] at h
      obtain ⟨ne, h⟩ := h
      intro mem
      rcases List.mem_cons.mp mem with eq | mem
      · exact ne (beq_iff_eq.mpr (first.key.trans eq.symm))
      · exact ih h mem

/-- The field of a name fits the slot of that name. -/
theorem exists_slot_of_mem {fields : List (RecordField α)} {slots' : List (Slot α)}
    (fits : List.Forall₂ (fun field slot => field.Fits slots slot) fields slots')
    {field : RecordField α} (mem : field ∈ fields) : ∃ slot ∈ slots', field.Fits slots slot := by
  induction fits with
  | nil => cases mem
  | cons first _ ih =>
      rcases List.mem_cons.mp mem with rfl | mem
      · exact ⟨_, List.mem_cons_self, first⟩
      · obtain ⟨slot, inside, fits⟩ := ih mem
        exact ⟨slot, List.mem_cons_of_mem _ inside, fits⟩

namespace Fits

/-- One field's change fills the field's slot. -/
theorem filled_cons (fits : record.Fits slots) {field : RecordField α} {slot : Slot α}
    (mem : slot ∈ slots) {room : Nat} {value current : α} {node : Node} {seen : List String}
    (fit : field.Fits slots slot) (holds : slot.Holds room value node)
    (filled : Filled slots record.blank value current seen) :
    ∃ change : α → α, field.decode room node = .ok change ∧
      Filled slots record.blank value (change current) (slot.key :: seen) := by
  obtain ⟨change, decoded, laws⟩ := fit.decode room value node holds
  obtain ⟨same, others⟩ := laws current
  refine ⟨change, decoded, ?_⟩
  intro other inside
  by_cases eq : other.key = slot.key
  · have : other = slot := List.inj_on_of_nodup_map fits.distinct inside mem eq
    subst this
    exact ⟨fun _ => same, fun new => absurd List.mem_cons_self new⟩
  · rw [others other inside eq]
    constructor
    · intro seen
      exact (filled other inside).1 ((List.mem_cons.mp seen).resolve_left eq)
    · intro new
      exact (filled other inside).2 fun seen => new (List.mem_cons_of_mem _ seen)

/-- A record is complete when every slot was seen or holds its default. -/
theorem eq_of_filled (fits : record.Fits slots) {value current : α} {seen : List String}
    (filled : Filled slots record.blank value current seen)
    (missing : ∀ slot ∈ slots, slot.key ∉ seen → slot.default? = some (slot.get value)) :
    current = value := by
  refine fits.ext current value fun slot mem => ?_
  by_cases h : slot.key ∈ seen
  · exact (filled slot mem).1 h
  · rw [(filled slot mem).2 h]
    exact fits.blank slot mem _ (missing slot mem h)

theorem finish_eq (fits : record.Fits slots) {value current : α} {seen : List String}
    (filled : Filled slots record.blank value current seen)
    (missing : ∀ slot ∈ slots, slot.key ∉ seen → slot.default? = some (slot.get value)) :
    record.finish seen current = .ok value := by
  have none : record.fields.find? (fun field => field.isRequired && !seen.contains field.key) =
      none := by
    rw [List.find?_eq_none]
    intro field mem
    obtain ⟨slot, inside, fit⟩ := exists_slot_of_mem fits.fields mem
    by_cases h : slot.key ∈ seen
    · simp [fit.key, h]
    · simp [fit.isRequired, missing slot inside h]
  rw [finish, none, fits.eq_of_filled filled missing]

/-- The members of an object fill the slots one after the other. -/
theorem ofMembers_eq (fits : record.Fits slots) {room : Nat} {value : α} {names : List String}
    {members : List (Literal × Node)}
    (each : List.Forall₂ (Form.IsMember slots room value) names members) {seen : List String}
    {current : α} (pending : Pending slots value seen names)
    (filled : Filled slots record.blank value current seen) :
    record.ofMembers room seen current (Tree.ofMembers members) = .ok value := by
  induction each generalizing seen current with
  | nil =>
      rw [Tree.ofMembers_nil, Record.ofMembers]
      exact fits.finish_eq filled fun slot mem new =>
        pending.missing slot mem new List.not_mem_nil
  | @cons name member names members first _ ih =>
      rw [Tree.ofMembers_cons, Record.ofMembers, literalText_of_denotes first.key]
      cases found : record.field? name with
      | none =>
          have unknown := key_ne_of_field?_eq_none fits.fields found
          have rest := ih (pending.skip unknown) filled
          simpa [bind, Except.bind, found, first.unknown unknown] using rest
      | some field =>
          obtain ⟨slot, inside, fit⟩ :=
            exists_slot_of_mem fits.fields (List.mem_of_find?_eq_some found)
          obtain rfl : slot.key = name := fit.key.symm.trans (by simpa using List.find?_some found)
          have known : slot.key ∈ keysOf slots := List.mem_map_of_mem inside
          have new : slot.key ∉ seen := pending.fresh slot.key List.mem_cons_self known
          obtain ⟨change, decoded, filled⟩ :=
            fits.filled_cons inside fit (first.known slot inside rfl) filled
          have rest := ih (pending.take known) filled
          simpa [bind, Except.bind, found, new, decoded] using rest

/-- The elements of an array fill the slots in their order. -/
theorem ofItems_eq (fits : record.Fits slots) {room : Nat} {value : α} {nodes : List Node}
    {fields : List (RecordField α)} {left : List (Slot α)}
    (fieldwise : List.Forall₂ (fun field slot => field.Fits slots slot) fields left)
    (each : List.Forall₂ (fun slot node => slot.Holds room value node) left nodes)
    {before : Nat} {seen : List String} {current : α} (part : ∀ slot ∈ left, slot ∈ slots)
    (filled : Filled slots record.blank value current seen)
    (all : ∀ slot ∈ slots, slot.key ∈ seen ∨ slot ∈ left) :
    record.ofItems room before current fields (Tree.ofItems nodes) = .ok value := by
  induction fieldwise generalizing nodes before seen current with
  | nil =>
      cases each
      have complete : ∀ slot ∈ slots, slot.key ∈ seen := fun slot mem =>
        (all slot mem).resolve_right List.not_mem_nil
      rw [Tree.ofItems_nil, Record.ofItems,
        fits.eq_of_filled filled fun slot mem new => absurd (complete slot mem) new]
  | @cons field slot fields left fit _ ih =>
      cases each with
      | cons holds each =>
          obtain ⟨change, decoded, filled⟩ :=
            fits.filled_cons (part slot List.mem_cons_self) fit holds filled
          have all' : ∀ other ∈ slots, other.key ∈ slot.key :: seen ∨ other ∈ left := by
            intro other mem
            rcases all other mem with seen | here
            · exact .inl (List.mem_cons_of_mem _ seen)
            · rcases List.mem_cons.mp here with rfl | here
              · exact .inl List.mem_cons_self
              · exact .inr here
          rw [Tree.ofItems_cons, Record.ofItems, decoded]
          exact ih each (fun other mem => part other (List.mem_cons_of_mem _ mem)) filled all'

/-- A record whose fields fit the slots is read back from all of its forms. -/
theorem reads (fits : record.Fits slots) : Reads record.decoder (Form.record slots) := by
  intro room value node h
  have blank : Filled slots record.blank value record.blank [] := fun slot mem =>
    ⟨fun seen => absurd seen List.not_mem_nil, fun _ => rfl⟩
  cases h with
  | object each once missing =>
      have pending : Pending slots value [] _ :=
        ⟨once, fun _ _ _ => List.not_mem_nil, fun slot mem _ => missing slot mem⟩
      exact fits.ofMembers_eq each pending blank
  | array each =>
      exact fits.ofItems_eq fits.fields each (fun slot mem => mem) blank fun slot mem => .inr mem

end Fits

end Record

end SchemaDto.Json
