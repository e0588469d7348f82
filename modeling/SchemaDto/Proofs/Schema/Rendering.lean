/-
# Renderings of a document

What renders a schema document as JSON, declaration by declaration, and that decoding
undoes every rendering of it (`Document.decode_rendering`).  Every document has one
(`Document.exists_rendering`).
-/
import SchemaDto.Proofs.Json.Range
import SchemaDto.Proofs.Json.Totality
import SchemaDto.Schema.Decode

namespace SchemaDto

open Json

/-- The names of a kind.  A name that is none of the others stands for the unsupported
kind. -/
inductive Kind.Named : Kind → String → Prop where
  | scalar : Named .scalar "scalar"
  | object : Named .object "object"
  | enumeration : Named .enumeration "enum"
  | unsupported {name : String} (h : name ≠ "scalar" ∧ name ≠ "object" ∧ name ≠ "enum") :
      Named .unsupported name

theorem Kind.ofName_of_named {kind : Kind} {name : String} (h : kind.Named name) :
    ofName name = kind := by
  cases h with
  | scalar | object | enumeration => rfl
  | unsupported h =>
      obtain ⟨scalar, object, enumeration⟩ := h
      simp only [ofName, names, List.lookup_cons, List.lookup_nil,
        beq_eq_false_iff_ne.mpr scalar, beq_eq_false_iff_ne.mpr object,
        beq_eq_false_iff_ne.mpr enumeration]
      cases name == "unsupported" <;> rfl

/-! ## Declarations -/

/-- The slots of a field. -/
def FieldDecl.slots : List (Slot FieldDecl) :=
  [{ key := "name", get := (·.name), form := .text },
   { key := "kind", get := (·.kind), form := .choice Kind.Named, default? := some .scalar },
   { key := "type", get := (·.type), form := .text },
   { key := "isList", get := (·.isList), form := .boolean, default? := some false },
   { key := "isRequired", get := (·.isRequired), form := .boolean, default? := some false },
   { key := "isId", get := (·.isId), form := .boolean, default? := some false },
   { key := "isUpdatedAt", get := (·.isUpdatedAt), form := .nullable .boolean,
     default? := some none },
   { key := "relationName", get := (·.relationName), form := .nullable .text,
     default? := some none },
   { key := "default", get := (·.hasDefault), form := .payload, default? := some false }]

/-- The slots of a model. -/
def ModelDecl.slots : List (Slot ModelDecl) :=
  [{ key := "name", get := (·.name), form := .text },
   { key := "fields", get := (·.fields), form := .list (.record FieldDecl.slots),
     default? := some [] }]

/-- The one slot of an enumeration's value. -/
def Enumeration.valueSlots : List (Slot String) :=
  [{ key := "name", get := id, form := .text }]

/-- The slots of an enumeration. -/
def Enumeration.slots : List (Slot Enumeration) :=
  [{ key := "name", get := (·.name), form := .text },
   { key := "values", get := (·.values), form := .list (.record valueSlots),
     default? := some [] }]

/-- The slots of the declarations in a document. -/
def Document.declarationSlots : List (Slot Document) :=
  [{ key := "models", get := (·.models), form := .list (.record ModelDecl.slots),
     default? := some [] },
   { key := "enums", get := (·.enums), form := .list (.record Enumeration.slots),
     default? := some [] }]

/-- The one slot of a document: its declarations. -/
def Document.slots : List (Slot Document) :=
  [{ key := "datamodel", get := id, form := .record declarationSlots, default? := some {} }]

/-! ## The decoders fit -/

theorem FieldDecl.record_fits : FieldDecl.record.Fits FieldDecl.slots where
  fields := by
    refine .cons (.required Decode.text_reads ?_ ?_) <|
      .cons (.of (Decode.variant_reads fun h => congrArg _ (Kind.ofName_of_named h)) ?_ ?_) <|
      .cons (.required Decode.text_reads ?_ ?_) <|
      .cons (.of Decode.boolean_reads ?_ ?_) <|
      .cons (.of Decode.boolean_reads ?_ ?_) <|
      .cons (.of Decode.boolean_reads ?_ ?_) <|
      .cons (.of (Decode.nullable_reads Decode.boolean_reads) ?_ ?_) <|
      .cons (.of (Decode.nullable_reads Decode.text_reads) ?_ ?_) <|
      .cons (.of Decode.presence_reads ?_ ?_) .nil
    all_goals simp [slots]
  distinct := by decide
  blank := by simp [slots, record]
  ext := by
    intro a b h
    simp only [slots, List.forall_mem_cons] at h
    cases a
    cases b
    simp_all

theorem ModelDecl.record_fits : ModelDecl.record.Fits ModelDecl.slots where
  fields := by
    refine .cons (.required Decode.text_reads ?_ ?_) <|
      .cons (.of (Decode.list_reads FieldDecl.record_fits.reads) ?_ ?_) .nil
    all_goals simp [slots]
  distinct := by decide
  blank := by simp [slots, record]
  ext := by
    intro a b h
    simp only [slots, List.forall_mem_cons] at h
    cases a
    cases b
    simp_all

theorem Enumeration.valueRecord_fits : Enumeration.valueRecord.Fits Enumeration.valueSlots where
  fields := by
    refine .cons (.required Decode.text_reads ?_ ?_) .nil
    all_goals simp [valueSlots]
  distinct := by decide
  blank := by simp [valueSlots]
  ext := by simp [valueSlots]

theorem Enumeration.record_fits : Enumeration.record.Fits Enumeration.slots where
  fields := by
    refine .cons (.required Decode.text_reads ?_ ?_) <|
      .cons (.of (Decode.list_reads valueRecord_fits.reads) ?_ ?_) .nil
    all_goals simp [slots]
  distinct := by decide
  blank := by simp [slots, record]
  ext := by
    intro a b h
    simp only [slots, List.forall_mem_cons] at h
    cases a
    cases b
    simp_all

theorem Document.declarationsRecord_fits :
    Document.declarationsRecord.Fits Document.declarationSlots where
  fields := by
    refine .cons (.of (Decode.list_reads ModelDecl.record_fits.reads) ?_ ?_) <|
      .cons (.of (Decode.list_reads Enumeration.record_fits.reads) ?_ ?_) .nil
    all_goals simp [declarationSlots]
  distinct := by decide
  blank := by simp [declarationSlots, declarationsRecord]
  ext := by
    intro a b h
    simp only [declarationSlots, List.forall_mem_cons] at h
    cases a
    cases b
    simp_all

theorem Document.record_fits : Document.record.Fits Document.slots where
  fields := by
    refine .cons (.of declarationsRecord_fits.reads ?_ ?_) .nil
    all_goals simp [slots]
  distinct := by decide
  blank := by simp [slots, record]
  ext := by simp [slots]

/-! ## Decoding undoes rendering -/

/-- Decoding a text gives back every document that the text renders.  Of the default of a
field, a document only says whether there is one. -/
theorem Document.decode_rendering {document : Document} {node : Node} {bytes : List UInt8}
    (renders : Form.record Document.slots nestingLimit document node)
    (text : node.TextOf bytes) : decode Document.record.decoder bytes = .ok document :=
  decode_of_reads record_fits.reads renders text

/-! ## Every document is rendered -/

theorem Kind.exists_named (kind : Kind) : ∃ name, kind.Named name := by
  cases kind with
  | scalar => exact ⟨_, .scalar⟩
  | object => exact ⟨_, .object⟩
  | enumeration => exact ⟨_, .enumeration⟩
  | unsupported => exact ⟨"unsupported", .unsupported (by decide)⟩

theorem FieldDecl.form_total : (Form.record FieldDecl.slots).Total 1 := by
  refine Form.record_total ?_
  simp only [slots, List.forall_mem_cons]
  exact ⟨Form.text_total, Form.choice_total Kind.exists_named, Form.text_total,
    Form.boolean_total, Form.boolean_total, Form.boolean_total,
    Form.nullable_total Form.boolean_total Form.boolean_ne_null,
    Form.nullable_total Form.text_total Form.text_ne_null, Form.payload_total, nofun⟩

theorem ModelDecl.form_total : (Form.record ModelDecl.slots).Total 3 := by
  refine Form.record_total ?_
  simp only [slots, List.forall_mem_cons]
  exact ⟨Form.text_total.mono (by omega), Form.list_total FieldDecl.form_total, nofun⟩

theorem Enumeration.form_total : (Form.record Enumeration.slots).Total 3 := by
  have values : (Form.record valueSlots).Total 1 := by
    refine Form.record_total ?_
    simp only [valueSlots, List.forall_mem_cons]
    exact ⟨Form.text_total, nofun⟩
  refine Form.record_total ?_
  simp only [slots, List.forall_mem_cons]
  exact ⟨Form.text_total.mono (by omega), Form.list_total values, nofun⟩

theorem Document.form_total : (Form.record Document.slots).Total 6 := by
  have declarations : (Form.record declarationSlots).Total 5 := by
    refine Form.record_total ?_
    simp only [declarationSlots, List.forall_mem_cons]
    exact ⟨Form.list_total ModelDecl.form_total, Form.list_total Enumeration.form_total, nofun⟩
  refine Form.record_total ?_
  simp only [slots, List.forall_mem_cons]
  exact ⟨declarations, nofun⟩

/-- Some text renders any given document. -/
theorem Document.exists_rendering (document : Document) :
    ∃ (node : Node) (text : String),
      Form.record Document.slots nestingLimit document node ∧ node.TextOf (Text.bytes text) :=
  form_total.exists_text (by decide) document

/-! ## A document in both forms -/

namespace Sample

/-- A model with one field that has a default. -/
def document : Document :=
  { models := [{ name := "A", fields := [{ name := "id", type := "Int", hasDefault := true }] }] }

/-- One half. -/
def half : Numeral := ⟨false, [⟨0, by decide⟩], [⟨5, by decide⟩], none⟩

/-- A number that no double holds. -/
def huge : Numeral :=
  ⟨false, [⟨1, by decide⟩], [], some (false, [⟨9, by decide⟩, ⟨9, by decide⟩, ⟨9, by decide⟩])⟩

/-- The field as an array of all its slots. -/
def field : Node :=
  .array (Tree.ofItems [.ofText "id", .ofText "scalar", .ofText "Int", .bool false, .bool false,
    .bool false, .null, .null, .array (Tree.ofItems [.number half])])

/-- The model as an object that names its slots in another order, one of them with an
escape. -/
def model : Node :=
  .object (Tree.ofMembers [(.ofText "fields", .array (Tree.ofItems [field])),
    (.unit 0x6e :: Literal.ofText "ame", .ofText "A")])

/-- The document with a member that it does not know. -/
def node : Node :=
  .object (Tree.ofMembers [(.ofText "datamodel",
      .array (Tree.ofItems [.array (Tree.ofItems [model]), .array .nil])),
    (.ofText "x", .number huge)])

/-- The compact text of the document. -/
def text : List UInt8 :=
  ascii ("\x7b\"datamodel\":[[\x7b\"fields\":[[\"id\",\"scalar\",\"Int\",false,false,false," ++
    "null,null,[0.5]]],\"\\u006eame\":\"A\"\x7d],[]],\"x\":1e999\x7d")

theorem node_textOf : node.TextOf text := by
  have printed : node.print = text := by decide +kernel
  rw [← printed]
  exact Tree.textOf_print ⟨rfl, by decide +kernel, by decide +kernel⟩

theorem field_renders (room : Nat) :
    Form.record FieldDecl.slots (room + 2) { name := "id", type := "Int", hasDefault := true }
      field := by
  have text : ∀ value, Form.text (room + 1) value (.ofText value) := Form.text_ofText (room + 1)
  have kind : Form.choice Kind.Named (room + 1) .scalar (.ofText "scalar") :=
    ⟨_, _, .scalar, Literal.denotes_ofText _, .inl rfl⟩
  have payload : Form.IsPayload (room + 1)
      (.array (Tree.ofItems [.number half])) :=
    ⟨nofun, rfl, Nat.le_add_left 1 room,
      List.forall_mem_singleton.mpr (Numeral.isSome_number? (by decide)), nofun⟩
  exact .array (.cons (text _) <| .cons kind <| .cons (text _) <| .cons rfl <| .cons rfl <|
    .cons rfl <| .cons rfl <| .cons rfl <| .cons payload .nil)

theorem model_renders (room : Nat) :
    Form.record ModelDecl.slots (room + 4)
      { name := "A", fields := [{ name := "id", type := "Int", hasDefault := true }] } model := by
  have name : Literal.Denotes (.unit 0x6e :: Literal.ofText "ame") "name" :=
    .cons (SpellsChar.unit (c := 'n') (by decide)) (Literal.denotes_ofText "ame")
  have fields : Form.list (.record FieldDecl.slots) (room + 3)
      [{ name := "id", type := "Int", hasDefault := true }] (.array (Tree.ofItems [field])) :=
    ⟨[field], _, rfl, rfl, .cons (field_renders room) .nil⟩
  refine @Form.record.object _ ModelDecl.slots (room + 3) _ ["fields", "name"] _
    (.cons ⟨Literal.denotes_ofText _, ?_, ?_⟩ (.cons ⟨name, ?_, ?_⟩ .nil)) (by decide) ?_
  · simpa [ModelDecl.slots, Slot.Holds] using fields
  · simp [ModelDecl.slots, keysOf]
  · simpa [ModelDecl.slots, Slot.Holds] using Form.text_ofText (room + 3) "A"
  · simp [ModelDecl.slots, keysOf]
  · simp [ModelDecl.slots]

theorem node_renders : Form.record Document.slots nestingLimit document node := by
  have models : Form.list (.record ModelDecl.slots) 125 document.models
      (.array (Tree.ofItems [model])) := ⟨[model], _, rfl, rfl, .cons (model_renders 120) .nil⟩
  have enums : Form.list (.record Enumeration.slots) 125 document.enums (.array .nil) :=
    ⟨[], _, rfl, rfl, .nil⟩
  have declarations : Form.record Document.declarationSlots 126 document
      (.array (Tree.ofItems [.array (Tree.ofItems [model]), .array .nil])) :=
    .array (.cons models (.cons enums .nil))
  refine @Form.record.object _ Document.slots 126 _ ["datamodel", "x"] _
    (.cons ⟨Literal.denotes_ofText _, ?_, ?_⟩ (.cons ⟨Literal.denotes_ofText _, ?_, ?_⟩ .nil))
    (by decide) ?_
  · simpa [Document.slots, Slot.Holds] using declarations
  · simp [Document.slots, keysOf]
  · simp [Document.slots]
  · simp [Document.slots, keysOf, Tree.isSound]
  · simp [Document.slots]

theorem decode_text : decode Document.record.decoder text = .ok document :=
  Document.decode_rendering node_renders node_textOf

end Sample

end SchemaDto
