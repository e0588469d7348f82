/-
# Renderings of settings

Settings are written in two ways: as a block of raw options, where every value is a text
with rules of its own, and as a JSON record.  Both give the same settings back
(`Settings.renderings_agree`).
-/
import SchemaDto.Proofs.Json.Totality
import SchemaDto.Proofs.Text.Lower
import SchemaDto.Settings.Options

namespace SchemaDto

open Json

/-! ## Names -/

/-- The name of a value. -/
def Relations.name : Relations → String
  | .omit => "omit"
  | .ids => "ids"
  | .nested => "nested"

@[inherit_doc Relations.name]
def Dates.name : Dates → String
  | .isoString => "iso-string"
  | .date => "date"

@[inherit_doc Relations.name]
def FileNaming.name : FileNaming → String
  | .kebab => "kebab"
  | .camel => "camel"
  | .pascal => "pascal"

@[inherit_doc Relations.name]
def Layout.name : Layout → String
  | .flat => "flat"
  | .domain => "domain"

/-- The list has every value under its name, and the names are plain. -/
structure Names {α : Type} (names : List (String × α)) (name : α → String) : Prop where
  lookup : ∀ value, names.lookup (name value) = some value
  plain : ∀ value, Text.IsPlainName (name value)

/-- Names of values are checked value by value, letter by letter. -/
theorem Names.of {α : Type} {names : List (String × α)} {name : α → String}
    (h : ∀ value, names.lookup (name value) = some value ∧ name value ≠ "" ∧
      ((name value).toList.all fun c => decide (c.toNat < 128) && !Text.isBlank c) = true) :
    Names names name where
  lookup value := (h value).1
  plain value := Text.isPlainName_of_all (h value).2.1 (h value).2.2

theorem Relations.names_name : Names Relations.names Relations.name :=
  .of fun value => by cases value <;> exact ⟨rfl, by decide, rfl⟩

theorem Dates.names_name : Names Dates.names Dates.name :=
  .of fun value => by cases value <;> exact ⟨rfl, by decide, rfl⟩

theorem FileNaming.names_name : Names FileNaming.names FileNaming.name :=
  .of fun value => by cases value <;> exact ⟨rfl, by decide, rfl⟩

theorem Layout.names_name : Names Layout.names Layout.name :=
  .of fun value => by cases value <;> exact ⟨rfl, by decide, rfl⟩

/-! ## Settings as a record -/

/-- A value by its name. -/
def Json.Form.named {α : Type} (name : α → String) : Form α :=
  .choice fun value written => written = name value

theorem Json.Form.named_total {α : Type} (name : α → String) : (named name).Total 0 :=
  choice_total fun value => ⟨name value, rfl⟩

theorem Names.reads {α : Type} {names : List (String × α)} {name : α → String}
    (h : Names names name) : Reads (Decode.variant (Decode.named names)) (.named name) := by
  refine Decode.variant_reads ?_
  rintro value written rfl
  rw [Decode.named, h.lookup]

namespace Settings

/-- The form of texts by name. -/
def textForm : Form (Dict String) := .dict .text

/-- The form of lists of texts by name. -/
def listForm : Form (Dict (List String)) := .dict (.list .text)

theorem textRecord_reads : Reads textRecord textForm := Decode.dict_reads Decode.text_reads

theorem listRecord_reads : Reads listRecord listForm :=
  Decode.dict_reads (Decode.list_reads Decode.text_reads)

/-- The slots of settings. -/
def slots : List (Slot Settings) :=
  [{ key := "emitBarrel", get := (·.emitBarrel), form := .boolean, default? := some true },
   { key := "relations", get := (·.relations), form := .named Relations.name,
     default? := some .ids },
   { key := "dateStrategy", get := (·.dates), form := .named Dates.name,
     default? := some .isoString },
   { key := "jsonType", get := (·.jsonType), form := .text,
     default? := some "Record<string, unknown>" },
   { key := "fileNaming", get := (·.fileNaming), form := .named FileNaming.name,
     default? := some .kebab },
   { key := "heuristics", get := (·.heuristics), form := .boolean, default? := some true },
   { key := "folderStructure", get := (·.layout), form := .named Layout.name,
     default? := some .flat },
   { key := "domainMapping", get := (·.domainMapping), form := .nullable textForm,
     default? := some none },
   { key := "omitFields", get := (·.omitFields), form := .nullable listForm,
     default? := some none },
   { key := "readDtoInclude", get := (·.readInclude), form := .nullable listForm,
     default? := some none },
   { key := "clean", get := (·.clean), form := .boolean, default? := some false }]

theorem record_fits : record.Fits slots where
  fields := by
    refine .cons (.of Decode.boolean_reads ?_ ?_) <|
      .cons (.of Relations.names_name.reads ?_ ?_) <|
      .cons (.of Dates.names_name.reads ?_ ?_) <|
      .cons (.of Decode.text_reads ?_ ?_) <|
      .cons (.of FileNaming.names_name.reads ?_ ?_) <|
      .cons (.of Decode.boolean_reads ?_ ?_) <|
      .cons (.of Layout.names_name.reads ?_ ?_) <|
      .cons (.of (Decode.nullable_reads textRecord_reads) ?_ ?_) <|
      .cons (.of (Decode.nullable_reads listRecord_reads) ?_ ?_) <|
      .cons (.of (Decode.nullable_reads listRecord_reads) ?_ ?_) <|
      .cons (.of Decode.boolean_reads ?_ ?_) .nil
    all_goals simp [slots]
  distinct := by decide
  blank := by simp [slots, record]
  ext := by
    intro a b h
    simp only [slots, List.forall_mem_cons] at h
    cases a
    cases b
    simp_all

end Settings

/-! ## Settings as options -/

namespace Options

/-- The option has the text that satisfies the predicate, alone or before others. -/
def Holds (options : Options) (key : String) (P : String → Prop) : Prop :=
  ∃ text, P text ∧ (options.get? key = some (.single text) ∨
    ∃ others, options.get? key = some (.repeated (text :: others)))

/-- The option has a text where there is a value, and is absent where there is none. -/
def HoldsSome {α : Type} (options : Options) (key : String) (P : α → String → Prop) :
    Option α → Prop
  | some value => options.Holds key (P value)
  | none => options.get? key = none

end Options

/-- A truth value by its word, between any blanks. -/
def WritesBoolean (value : Bool) (text : String) : Prop :=
  Text.IsPadded (if value then "true" else "false") text

/-- A name in any ASCII letter case, between any blanks. -/
def WritesName (name text : String) : Prop :=
  ∃ word, Text.IsCased name word ∧ Text.IsPadded word text

/-- A JSON text that renders the value. -/
def WritesJson {α : Type} (form : Form α) (value : α) (text : String) : Prop :=
  ∃ node : Node, form nestingLimit value node ∧ node.TextOf (Text.bytes text)

/-- The options that write settings: a text for each of them, except for the record options
that are not set. -/
structure Settings.WrittenAs (settings : Settings) (options : Options) : Prop where
  emitBarrel : options.Holds "emitBarrel" (WritesBoolean settings.emitBarrel)
  heuristics : options.Holds "heuristics" (WritesBoolean settings.heuristics)
  clean : options.Holds "clean" (WritesBoolean settings.clean)
  relations : options.Holds "relations" (WritesName settings.relations.name)
  dates : options.Holds "dateStrategy" (WritesName settings.dates.name)
  fileNaming : options.Holds "fileNaming" (WritesName settings.fileNaming.name)
  layout : options.Holds "folderStructure" (WritesName settings.layout.name)
  jsonType : options.Holds "jsonType" (· = settings.jsonType)
  omitFields : options.HoldsSome "omitFields" (WritesJson listForm) settings.omitFields
  readInclude : options.HoldsSome "readDtoInclude" (WritesJson listForm) settings.readInclude
  domainMapping : options.HoldsSome "domainMapping" (WritesJson textForm) settings.domainMapping

/-! ## The rules read them back -/

theorem readBoolean_of_writes {value : Bool} {text : String} (h : WritesBoolean value text) :
    readBoolean text = some value := by
  have plain : Text.IsPlainName (if value then "true" else "false") := by
    cases value <;> exact Text.isPlainName_of_all (by decide) rfl
  rw [readBoolean, Text.trim_of_isPadded h plain.1 fun c mem => (plain.2 c mem).2]
  cases value <;> rfl

theorem readName_of_writes {α : Type} {names : List (String × α)} {name : α → String}
    (h : Names names name) {value : α} {text : String} (writes : WritesName (name value) text) :
    readName names text = some value := by
  obtain ⟨word, cased, padded⟩ := writes
  rw [readName, ofName?, Text.lower_trim (h.plain value) cased padded, h.lookup]

theorem readJson_of_writes {α : Type} {decoder : Decoder α} {form : Form α}
    (reads : Reads decoder form) {value : α} {text : String}
    (writes : WritesJson form value text) : readJson decoder text = some value := by
  obtain ⟨node, renders, written⟩ := writes
  rw [readJson, decode_of_reads reads renders written]
  rfl

namespace Options

variable {α : Type} {options : Options} {key : String}

theorem text?_of_holds {P : String → Prop} (h : options.Holds key P) :
    ∃ text, P text ∧ options.text? key = some text := by
  obtain ⟨text, holds, single | ⟨others, repeated⟩⟩ := h
  · exact ⟨text, holds, by rw [text?, single]; rfl⟩
  · exact ⟨text, holds, by rw [text?, repeated]; rfl⟩

/-- Reading the option by a rule gives the value, and there is no remark on it. -/
structure Gives (options : Options) (key : String) (rule : String → Option α)
    (value? : Option α) : Prop where
  value : options.read? key rule = value?
  silent : ∀ warning, options.remark key rule warning = []

theorem gives_of_holds {P : String → Prop} {rule : String → Option α} {value : α}
    (h : options.Holds key P) (accepts : ∀ {text}, P text → rule text = some value) :
    options.Gives key rule (some value) := by
  obtain ⟨text, holds, found⟩ := text?_of_holds h
  constructor
  · rw [read?, found]
    exact accepts holds
  · intro warning
    simp [remark, found, accepts holds]

theorem gives_of_holdsSome {P : α → String → Prop} {rule : String → Option α}
    {value? : Option α} (h : options.HoldsSome key P value?)
    (accepts : ∀ {value text}, P value text → rule text = some value) :
    options.Gives key rule value? := by
  cases value? with
  | some value => exact gives_of_holds h accepts
  | none =>
      have absent : options.text? key = none := by
        rw [text?, show options.get? key = none from h]
        rfl
      constructor
      · rw [read?, absent]
        rfl
      · intro warning
        simp [remark, absent]

theorem jsonType_of_holds {jsonType fallback : String} (some : jsonType ≠ "")
    (h : options.Holds key (· = jsonType)) :
    ((options.text? key).filter (· != "")).getD fallback = jsonType := by
  obtain ⟨text, rfl, found⟩ := text?_of_holds h
  rw [found, Option.filter_some, if_pos (by simpa using some)]
  rfl

end Options

namespace Settings

variable {settings : Settings} {options : Options}

/-- Options that write settings are read as those settings, without a remark. -/
theorem WrittenAs.settings_eq (h : settings.WrittenAs options) (some : settings.jsonType ≠ "") :
    options.settings = settings ∧ options.warnings = [] := by
  have emitBarrel := Options.gives_of_holds h.emitBarrel readBoolean_of_writes
  have heuristics := Options.gives_of_holds h.heuristics readBoolean_of_writes
  have clean := Options.gives_of_holds h.clean readBoolean_of_writes
  have relations := Options.gives_of_holds h.relations (readName_of_writes Relations.names_name)
  have dates := Options.gives_of_holds h.dates (readName_of_writes Dates.names_name)
  have fileNaming := Options.gives_of_holds h.fileNaming (readName_of_writes FileNaming.names_name)
  have layout := Options.gives_of_holds h.layout (readName_of_writes Layout.names_name)
  have omitFields := Options.gives_of_holdsSome h.omitFields (readJson_of_writes listRecord_reads)
  have readInclude :=
    Options.gives_of_holdsSome h.readInclude (readJson_of_writes listRecord_reads)
  have domainMapping :=
    Options.gives_of_holdsSome h.domainMapping (readJson_of_writes textRecord_reads)
  constructor
  · simp only [Options.settings, emitBarrel.value, heuristics.value, clean.value, relations.value,
      dates.value, fileNaming.value, layout.value, omitFields.value, readInclude.value,
      domainMapping.value, Options.jsonType_of_holds some h.jsonType, Option.getD_some]
  · simp only [Options.warnings, Options.remarkBoolean, Options.remarkName, Options.remarkJson,
      emitBarrel.silent, heuristics.silent, clean.silent, relations.silent, dates.silent,
      fileNaming.silent, layout.silent, omitFields.silent, readInclude.silent,
      domainMapping.silent, List.append_nil]

/-- Settings come back from both of their renderings: from options without a remark, and from
a JSON record. -/
theorem renderings_agree (settings : Settings) (some : settings.jsonType ≠ "") :
    (∀ options : Options, settings.WrittenAs options →
      options.settings = settings ∧ options.warnings = []) ∧
    ∀ (node : Node) (bytes : List UInt8), Form.record slots nestingLimit settings node →
      node.TextOf bytes → decode record.decoder bytes = .ok settings :=
  ⟨fun _ written => written.settings_eq some,
    fun _ _ renders text => decode_of_reads record_fits.reads renders text⟩

/-! ## All settings have both renderings -/

theorem textForm_total : textForm.Total 1 := Form.dict_total Form.text_total

theorem listForm_total : listForm.Total 2 := Form.dict_total (Form.list_total Form.text_total)

theorem form_total : (Form.record slots).Total 3 := by
  have named : ∀ {α : Type} (name : α → String), (Form.named name).Total 2 := fun name =>
    (Form.named_total name).mono (by omega)
  have boolean : Form.boolean.Total 2 := Form.boolean_total.mono (by omega)
  have texts : textForm.nullable.Total 2 :=
    Form.nullable_total (textForm_total.mono (by omega)) Form.dict_ne_null
  have lists : listForm.nullable.Total 2 := Form.nullable_total listForm_total Form.dict_ne_null
  refine Form.record_total ?_
  simp only [slots, List.forall_mem_cons]
  exact ⟨boolean, named _, named _, Form.text_total.mono (by omega), named _, boolean, named _,
    texts, lists, lists, boolean, nofun⟩

/-- Some text renders any given settings as a record. -/
theorem exists_record (settings : Settings) :
    ∃ (node : Node) (text : String),
      Form.record slots nestingLimit settings node ∧ node.TextOf (Text.bytes text) :=
  form_total.exists_text (by decide) settings

/-- The option that writes the value of a record option, if there is one. -/
theorem exists_option {α : Type} {depth : Nat} {form : Form α} (total : form.Total depth)
    (enough : depth ≤ nestingLimit) (value? : Option α) :
    ∃ option? : Option OptionValue, ∀ (options : Options) (key : String),
      options.get? key = option? → options.HoldsSome key (WritesJson form) value? := by
  cases value? with
  | none => exact ⟨none, fun options key found => found⟩
  | some value =>
      obtain ⟨node, text, renders, written⟩ := total.exists_text enough value
      exact ⟨some (.single text), fun options key found =>
        ⟨text, ⟨node, renders, written⟩, .inl found⟩⟩

/-- The texts of the options that write settings, given those of the record options. -/
def optionTexts (settings : Settings) (omitFields readInclude domainMapping : Option OptionValue) :
    List (String × Option OptionValue) :=
  let word := fun value => if value then "true" else "false"
  [("emitBarrel", some (.single (word settings.emitBarrel))),
    ("heuristics", some (.single (word settings.heuristics))),
    ("clean", some (.single (word settings.clean))),
    ("relations", some (.single settings.relations.name)),
    ("dateStrategy", some (.single settings.dates.name)),
    ("fileNaming", some (.single settings.fileNaming.name)),
    ("folderStructure", some (.single settings.layout.name)),
    ("jsonType", some (.single settings.jsonType)), ("omitFields", omitFields),
    ("readDtoInclude", readInclude), ("domainMapping", domainMapping)]

/-- Some options write any given settings. -/
theorem exists_options (settings : Settings) : ∃ options : Options, settings.WrittenAs options := by
  obtain ⟨omitFields, writesOmitFields⟩ :=
    exists_option listForm_total (by decide) settings.omitFields
  obtain ⟨readInclude, writesReadInclude⟩ :=
    exists_option listForm_total (by decide) settings.readInclude
  obtain ⟨domainMapping, writesDomainMapping⟩ :=
    exists_option textForm_total (by decide) settings.domainMapping
  obtain ⟨options, found⟩ := Dict.exists_get?_eq_lookup
    (show ((settings.optionTexts omitFields readInclude domainMapping).map (·.1)).Nodup by
      simp [optionTexts])
  have boolean : ∀ value : Bool, WritesBoolean value (if value then "true" else "false") :=
    fun value => Text.isPadded_self _
  have name : ∀ {name : String}, Text.IsCased name name → WritesName name name :=
    fun lower => ⟨_, lower, Text.isPadded_self _⟩
  exact ⟨options, {
    emitBarrel := ⟨_, boolean _, .inl (found "emitBarrel")⟩
    heuristics := ⟨_, boolean _, .inl (found "heuristics")⟩
    clean := ⟨_, boolean _, .inl (found "clean")⟩
    relations := ⟨_, name (by cases settings.relations <;> rfl), .inl (found "relations")⟩
    dates := ⟨_, name (by cases settings.dates <;> rfl), .inl (found "dateStrategy")⟩
    fileNaming := ⟨_, name (by cases settings.fileNaming <;> rfl), .inl (found "fileNaming")⟩
    layout := ⟨_, name (by cases settings.layout <;> rfl), .inl (found "folderStructure")⟩
    jsonType := ⟨_, rfl, .inl (found "jsonType")⟩
    omitFields := writesOmitFields options _ (found "omitFields")
    readInclude := writesReadInclude options _ (found "readDtoInclude")
    domainMapping := writesDomainMapping options _ (found "domainMapping") }⟩

/-! ## Settings in both renderings -/

/-- Settings that leave relations out, and one field of a model. -/
def sample : Settings where
  relations := .omit
  jsonType := "any"
  omitFields := some (.ofList [("A", ["x"])])

/-- The options that write the sample, with capitals, blanks and repetitions. -/
def sampleOptions : Options :=
  .ofList [("emitBarrel", .single "true"), ("heuristics", .repeated ["true", "maybe"]),
    ("clean", .single "false"), ("relations", .single " OMIT\n"),
    ("dateStrategy", .single "Iso-String"), ("fileNaming", .repeated ["kebab"]),
    ("folderStructure", .single "flat"), ("jsonType", .single "any"),
    ("omitFields", .single "\x7b\"A\":[\"x\"]\x7d")]

/-- The omitted fields of the sample. -/
def sampleFields : Node :=
  .object (Tree.ofMembers [(.ofText "A", .array (Tree.ofItems [.ofText "x"]))])

/-- The record of the sample, without what holds its default. -/
def sampleNode : Node :=
  .object (Tree.ofMembers [(.ofText "omitFields", sampleFields),
    (.ofText "jsonType", .ofText "any"), (.ofText "relations", .ofText "omit")])

theorem sampleFields_renders (room : Nat) :
    listForm (room + 2) (.ofList [("A", ["x"])]) sampleFields := by
  have fields : Form.list .text (room + 1) ["x"] (.array (Tree.ofItems [.ofText "x"])) :=
    ⟨[.ofText "x"], room, rfl, rfl, .cons (Form.text_ofText room "x") .nil⟩
  exact ⟨[(.ofText "A", .array (Tree.ofItems [.ofText "x"]))], [("A", ["x"])], room + 1, rfl, rfl,
    .refl _, .cons ⟨Literal.denotes_ofText "A", fields⟩ .nil⟩

theorem sampleFields_written :
    WritesJson listForm (.ofList [("A", ["x"])]) "\x7b\"A\":[\"x\"]\x7d" := by
  have printed : sampleFields.print = Text.bytes "\x7b\"A\":[\"x\"]\x7d" := rfl
  refine ⟨sampleFields, sampleFields_renders 125, ?_⟩
  rw [← printed]
  exact Tree.textOf_print ⟨rfl, by decide +kernel, by decide +kernel⟩

theorem sample_writtenAs : sample.WrittenAs sampleOptions where
  emitBarrel := ⟨"true", Text.isPadded_self _, .inl rfl⟩
  heuristics := ⟨"true", Text.isPadded_self _, .inr ⟨["maybe"], rfl⟩⟩
  clean := ⟨"false", Text.isPadded_self _, .inl rfl⟩
  relations := by
    have padded : Text.IsPadded "OMIT" " OMIT\n" := ⟨[' '], ['\n'], List.all_eq_true.mp rfl, rfl⟩
    exact ⟨_, ⟨"OMIT", rfl, padded⟩, .inl rfl⟩
  dates := ⟨_, ⟨"Iso-String", rfl, Text.isPadded_self _⟩, .inl rfl⟩
  fileNaming := ⟨_, ⟨"kebab", rfl, Text.isPadded_self _⟩, .inr ⟨[], rfl⟩⟩
  layout := ⟨_, ⟨"flat", rfl, Text.isPadded_self _⟩, .inl rfl⟩
  jsonType := ⟨_, rfl, .inl rfl⟩
  omitFields := ⟨_, sampleFields_written, .inl rfl⟩
  readInclude := rfl
  domainMapping := rfl

theorem sampleNode_renders : Form.record slots nestingLimit sample sampleNode := by
  have omitFields : Form.nullable listForm 126 sample.omitFields sampleFields :=
    ⟨nofun, sampleFields_renders 124⟩
  have jsonType : Form.text 126 sample.jsonType (.ofText "any") := Form.text_ofText 126 "any"
  have relations : Form.named Relations.name 126 sample.relations (.ofText "omit") :=
    ⟨_, _, rfl, Literal.denotes_ofText "omit", .inl rfl⟩
  refine @Form.record.object _ slots 126 sample ["omitFields", "jsonType", "relations"] _
    (.cons ⟨Literal.denotes_ofText _, ?_, ?_⟩ (.cons ⟨Literal.denotes_ofText _, ?_, ?_⟩
      (.cons ⟨Literal.denotes_ofText _, ?_, ?_⟩ .nil))) (by decide) ?_
  · simpa [slots, Slot.Holds] using omitFields
  · simp [slots, keysOf]
  · simpa [slots, Slot.Holds] using jsonType
  · simp [slots, keysOf]
  · simpa [slots, Slot.Holds] using relations
  · simp [slots, keysOf]
  · simp [slots, sample]

/-- The compact text of the record. -/
def sampleText : List UInt8 :=
  ascii "\x7b\"omitFields\":\x7b\"A\":[\"x\"]\x7d,\"jsonType\":\"any\",\"relations\":\"omit\"\x7d"

theorem sampleNode_textOf : sampleNode.TextOf sampleText := by
  have printed : sampleNode.print = sampleText := rfl
  rw [← printed]
  exact Tree.textOf_print ⟨rfl, by decide +kernel, by decide +kernel⟩

theorem sample_agrees :
    sample.jsonType ≠ "" ∧ (sampleOptions.settings = sample ∧ sampleOptions.warnings = []) ∧
      decode record.decoder sampleText = .ok sample :=
  ⟨by decide, (renderings_agree sample (by decide)).1 sampleOptions sample_writtenAs,
    (renderings_agree sample (by decide)).2 sampleNode sampleText sampleNode_renders
      sampleNode_textOf⟩

end Settings

end SchemaDto
