/-
# Options

The options block of a run: raw texts by key.  Each option has a rule that
reads its text; a text that the rule rejects leaves the option at its default
and is remarked upon.  Keys without a rule are ignored.  Options that hold
records are JSON texts, and settings as a whole have a JSON form too.
-/
import SchemaDto.Json.Record
import SchemaDto.Settings.Basic
import SchemaDto.Text.Basic
import SchemaDto.Text.Case

namespace SchemaDto

/-! ## The JSON form of settings -/

namespace Settings

open Json

/-- Texts by name. -/
def textRecord : Decoder (Dict String) := Decode.dict Decode.text

/-- Lists of texts by name. -/
def listRecord : Decoder (Dict (List String)) := Decode.dict (Decode.list Decode.text)

/-- The JSON form of settings; what is left out keeps its default. -/
def record : Record Settings where
  name := "GeneratorConfig"
  blank := {}
  fields :=
    [.of "emitBarrel" Decode.boolean fun value settings => { settings with emitBarrel := value },
     .of "relations" (Decode.variant (Decode.named Relations.names)) fun value settings =>
       { settings with relations := value },
     .of "dateStrategy" (Decode.variant (Decode.named Dates.names)) fun value settings =>
       { settings with dates := value },
     .of "jsonType" Decode.text fun value settings => { settings with jsonType := value },
     .of "fileNaming" (Decode.variant (Decode.named FileNaming.names)) fun value settings =>
       { settings with fileNaming := value },
     .of "heuristics" Decode.boolean fun value settings => { settings with heuristics := value },
     .of "folderStructure" (Decode.variant (Decode.named Layout.names)) fun value settings =>
       { settings with layout := value },
     .of "domainMapping" (Decode.nullable textRecord) fun value settings =>
       { settings with domainMapping := value },
     .of "omitFields" (Decode.nullable listRecord) fun value settings =>
       { settings with omitFields := value },
     .of "readDtoInclude" (Decode.nullable listRecord) fun value settings =>
       { settings with readInclude := value },
     .of "clean" Decode.boolean fun value settings => { settings with clean := value }]

end Settings

/-! ## Raw options -/

/-- The raw value of an option. -/
inductive OptionValue where
  | single (text : String)
  /-- A repeated option, of which only the first text counts. -/
  | repeated (texts : List String)
deriving DecidableEq, Repr

/-- The text that counts. -/
def OptionValue.text? : OptionValue → Option String
  | single text => some text
  | repeated texts => texts.head?

/-- Raw values by key. -/
abbrev Options := Dict OptionValue

/-- The text of an option. -/
def Options.text? (options : Options) (key : String) : Option String :=
  (options.get? key).bind OptionValue.text?

/-! ## Rules -/

/-- The value of a name in any letter case. -/
def ofName? {α : Type} (names : List (String × α)) (text : String) : Option α :=
  names.lookup (Text.lower text)

/-- A yes-or-no option: blanks around the word do not count, its letter case
does. -/
def readBoolean (text : String) : Option Bool :=
  [("true", true), ("false", false)].lookup (Text.trim text)

/-- An option with named values: neither blanks around the name nor its letter
case count. -/
def readName {α : Type} (names : List (String × α)) (text : String) : Option α :=
  ofName? names (Text.trim text)

/-- A record option holds a JSON text. -/
def readJson {α : Type} (decoder : Json.Decoder α) (text : String) : Option α :=
  (Json.decode decoder (Text.bytes text)).toOption

namespace Options

/-- The value of an option, if its rule accepts the text. -/
def read? {α : Type} (options : Options) (key : String) (rule : String → Option α) : Option α :=
  (options.text? key).bind rule

/-- The settings of an options block. -/
def settings (options : Options) : Settings :=
  let default : Settings := {}
  { emitBarrel := (options.read? "emitBarrel" readBoolean).getD default.emitBarrel
    heuristics := (options.read? "heuristics" readBoolean).getD default.heuristics
    clean := (options.read? "clean" readBoolean).getD default.clean
    relations := (options.read? "relations" (readName Relations.names)).getD default.relations
    dates := (options.read? "dateStrategy" (readName Dates.names)).getD default.dates
    fileNaming := (options.read? "fileNaming" (readName FileNaming.names)).getD default.fileNaming
    layout := (options.read? "folderStructure" (readName Layout.names)).getD default.layout
    jsonType := ((options.text? "jsonType").filter (· != "")).getD default.jsonType
    omitFields := options.read? "omitFields" (readJson Settings.listRecord)
    readInclude := options.read? "readDtoInclude" (readJson Settings.listRecord)
    domainMapping := options.read? "domainMapping" (readJson Settings.textRecord) }

/-! ## Remarks -/

/-- The remark on an option whose text its rule rejects. -/
def remark {α : Type} (options : Options) (key : String) (rule : String → Option α)
    (remark : String → Warning) : List Warning :=
  match options.text? key with
  | none => []
  | some text => if (rule text).isSome then [] else [remark text]

/-- The remark on a yes-or-no option quotes the text without blanks around
it. -/
def remarkBoolean (options : Options) (key : String) : List Warning :=
  options.remark key readBoolean fun text => .notBoolean key (Text.trim text)

/-- The remark on an option with named values quotes the text as it is. -/
def remarkName {α : Type} (options : Options) (key : String) (names : List (String × α)) :
    List Warning :=
  options.remark key (readName names) fun text => .unrecognized key text

/-- The remark on a record option. -/
def remarkJson {α : Type} (options : Options) (key : String) (decoder : Json.Decoder α) :
    List Warning :=
  options.remark key (readJson decoder) fun _ => .unreadable key

/-- The remarks on an options block, in a fixed order of keys. -/
def warnings (options : Options) : List Warning :=
  options.remarkBoolean "emitBarrel" ++
    options.remarkBoolean "heuristics" ++
    options.remarkBoolean "clean" ++
    options.remarkName "relations" Relations.names ++
    options.remarkName "dateStrategy" Dates.names ++
    options.remarkName "fileNaming" FileNaming.names ++
    options.remarkName "folderStructure" Layout.names ++
    options.remarkJson "omitFields" Settings.listRecord ++
    options.remarkJson "readDtoInclude" Settings.listRecord ++
    options.remarkJson "domainMapping" Settings.textRecord

end Options

/-! ## Decoding -/

/-- The texts in a list that holds nothing else. -/
def textsOf : Json.Items → Option (List String)
  | .nil => some []
  | .cons (.text literal) tail => do
    let text ← literal.text?
    let texts ← textsOf tail
    return text :: texts
  | .cons _ _ => none

/-- The raw value of an option that a tree holds. -/
def OptionValue.ofNode? : Json.Node → Option OptionValue
  | .text literal => literal.text?.map single
  | .array items => (textsOf items).map repeated
  | _ => none

/-- The decoder of a raw value.  The whole value must be well-formed before its
shape counts. -/
def OptionValue.decoder : Json.Decoder OptionValue := fun room node =>
  if node.isPlain room then
    match ofNode? node with
    | some value => .ok value
    | none => .error (.mismatch .notAnOption)
  else .error .malformed

/-- The decoder of an options block. -/
def Options.decoder : Json.Decoder Options := Json.Decode.dict OptionValue.decoder

end SchemaDto
