/-
# Options one by one

Every option controls one member of the settings, and no two share a key.  The member is
the value that the rule of the option reads from the text that counts, or its default where
there is no text and where the rule rejects it (`member_settings`).  So a malformed option
is as good as none, whatever stands under the other keys (`Options.read_one_by_one`).
-/
import SchemaDto.Proofs.Order.Dict
import SchemaDto.Settings.Options

namespace SchemaDto

/-- The options that there are rules for, in the order in which they are read. -/
inductive OptionKey where
  | emitBarrel
  | heuristics
  | clean
  | relations
  | dates
  | fileNaming
  | layout
  | jsonType
  | omitFields
  | readInclude
  | domainMapping
deriving DecidableEq, Repr

namespace OptionKey

@[inherit_doc OptionKey]
def all : List OptionKey :=
  [emitBarrel, heuristics, clean, relations, dates, fileNaming, layout, jsonType, omitFields,
    readInclude, domainMapping]

/-- The key of the option. -/
def name : OptionKey → String
  | emitBarrel => "emitBarrel"
  | heuristics => "heuristics"
  | clean => "clean"
  | relations => "relations"
  | dates => "dateStrategy"
  | fileNaming => "fileNaming"
  | layout => "folderStructure"
  | jsonType => "jsonType"
  | omitFields => "omitFields"
  | readInclude => "readDtoInclude"
  | domainMapping => "domainMapping"

/-- What the option sets. -/
def Value : OptionKey → Type
  | emitBarrel | heuristics | clean => Bool
  | relations => Relations
  | dates => Dates
  | fileNaming => FileNaming
  | layout => Layout
  | jsonType => String
  | omitFields | readInclude => Option (Dict (List String))
  | domainMapping => Option (Dict String)

/-- The member of settings that the option controls. -/
def member : (key : OptionKey) → Settings → key.Value
  | emitBarrel => Settings.emitBarrel
  | heuristics => Settings.heuristics
  | clean => Settings.clean
  | relations => Settings.relations
  | dates => Settings.dates
  | fileNaming => Settings.fileNaming
  | layout => Settings.layout
  | jsonType => Settings.jsonType
  | omitFields => Settings.omitFields
  | readInclude => Settings.readInclude
  | domainMapping => Settings.domainMapping

/-- The rule of the option: the value of a text, unless the text is rejected. -/
def rule : (key : OptionKey) → String → Option key.Value
  | emitBarrel | heuristics | clean => readBoolean
  | relations => readName Relations.names
  | dates => readName Dates.names
  | fileNaming => readName FileNaming.names
  | layout => readName Layout.names
  | jsonType => fun text => if text = "" then none else some text
  | omitFields | readInclude => fun text => (readJson Settings.listRecord text).map some
  | domainMapping => fun text => (readJson Settings.textRecord text).map some

theorem mem_all (key : OptionKey) : key ∈ all := by
  cases key <;> decide

theorem name_injective {key other : OptionKey} (h : key.name = other.name) : key = other :=
  (by decide : ∀ key ∈ all, ∀ other ∈ all, key.name = other.name → key = other)
    key (mem_all key) other (mem_all other) h

/-- Settings have no other members. -/
theorem settings_ext {settings other : Settings}
    (h : ∀ key : OptionKey, key.member settings = key.member other) : settings = other := by
  cases settings
  cases other
  congr
  · exact h emitBarrel
  · exact h relations
  · exact h dates
  · exact h jsonType
  · exact h fileNaming
  · exact h heuristics
  · exact h layout
  · exact h domainMapping
  · exact h omitFields
  · exact h readInclude
  · exact h clean

end OptionKey

/-- The key of the option that the remark is about. -/
def Warning.option? : Warning → Option String
  | notBoolean option _ => some option
  | unrecognized option _ => some option
  | unreadable option => some option
  | noDomain .. => none

namespace Options

open OptionKey

variable {options other : Options}

/-- The option has a text that its rule rejects. -/
def rejects (options : Options) (key : OptionKey) : Bool :=
  (options.text? key.name).any fun text => (key.rule text).isNone

/-! ## Members -/

/-- A member is what its option says, or the default. -/
theorem member_settings (options : Options) (key : OptionKey) :
    key.member options.settings =
      ((options.text? key.name).bind key.rule).getD (key.member {}) := by
  -- the members of record options are optional themselves, with `none` as their default
  have record {α : Type} (text? : Option String) (rule : String → Option α) :
      text?.bind rule = (text?.bind fun text => (rule text).map some).getD none := by
    cases text? with
    | none => rfl
    | some text => cases h : rule text <;> simp [h]
  cases key with
  | emitBarrel | heuristics | clean | relations | dates | fileNaming | layout => rfl
  | jsonType =>
      have verbatim (text? : Option String) : text?.filter (· != "") =
          text?.bind fun text => if text = "" then none else some text := by
        cases text? with
        | none => rfl
        | some text => by_cases empty : text = "" <;> simp [empty]
      exact congrArg (·.getD "Record<string, unknown>") (verbatim (options.text? "jsonType"))
  | omitFields | readInclude | domainMapping => exact record _ _

theorem member_of_text? {key : OptionKey} (h : options.text? key.name = other.text? key.name) :
    key.member options.settings = key.member other.settings := by
  rw [member_settings, member_settings, h]

/-- Settings come from the texts of the options that there are rules for. -/
theorem settings_of_texts
    (h : ∀ key : OptionKey, options.text? key.name = other.text? key.name) :
    options.settings = other.settings :=
  settings_ext fun key => member_of_text? (h key)

theorem text?_congr {key : String} (h : options.get? key = other.get? key) :
    options.text? key = other.text? key :=
  congrArg (·.bind OptionValue.text?) h

/-- A text that is rejected does not count. -/
theorem bind_rule_of_rejects {key : OptionKey} (h : options.rejects key = true) :
    (options.text? key.name).bind key.rule = none := by
  obtain ⟨text, found, rejected⟩ := (Option.any_eq_true _ _).mp h
  rw [found]
  exact Option.isNone_iff_eq_none.mp rejected

/-! ## Remarks -/

/-- The remarks on an option, by its rule.  A text that is taken as it is gets none. -/
def remarks (options : Options) : OptionKey → List Warning
  | key@emitBarrel | key@heuristics | key@clean => options.remarkBoolean key.name
  | key@relations => options.remarkName key.name Relations.names
  | key@dates => options.remarkName key.name Dates.names
  | key@fileNaming => options.remarkName key.name FileNaming.names
  | key@layout => options.remarkName key.name Layout.names
  | jsonType => []
  | key@omitFields | key@readInclude => options.remarkJson key.name Settings.listRecord
  | key@domainMapping => options.remarkJson key.name Settings.textRecord

theorem warnings_eq (options : Options) :
    options.warnings = (all.erase jsonType).flatMap options.remarks := by
  rw [show all.erase jsonType = [emitBarrel, heuristics, clean, relations, dates, fileNaming,
    layout, omitFields, readInclude, domainMapping] from rfl]
  simp [warnings, remarks, name]

theorem remark_of_text? {α : Type} {key : String} (h : options.text? key = other.text? key)
    (rule : String → Option α) (warning : String → Warning) :
    options.remark key rule warning = other.remark key rule warning := by
  rw [remark, remark, h]

/-- Remarks come from the texts of the options that there are rules for. -/
theorem warnings_of_texts
    (h : ∀ key : OptionKey, options.text? key.name = other.text? key.name) :
    options.warnings = other.warnings := by
  have each : options.remarks = other.remarks := by
    funext key
    cases key with
    | jsonType => rfl
    | _ => exact remark_of_text? (h _) _ _
  rw [warnings_eq, warnings_eq, each]

theorem map_option?_remark {α : Type} {key : OptionKey} {rule : String → Option α}
    {warning : String → Warning} (rejects : ∀ text, (key.rule text).isNone = (rule text).isNone)
    (names : ∀ text, (warning text).option? = some key.name) :
    (options.remark key.name rule warning).map Warning.option? =
      if options.rejects key then [some key.name] else [] := by
  unfold remark Options.rejects
  cases options.text? key.name with
  | none => rfl
  | some text => cases h : rule text <;> simp [h, rejects, names]

/-- An option that is rejected has one remark, which names it. -/
theorem map_option?_remarks {key : OptionKey} (h : key ≠ jsonType) :
    (options.remarks key).map Warning.option? =
      if options.rejects key then [some key.name] else [] := by
  cases key with
  | emitBarrel | heuristics | clean | relations | dates | fileNaming | layout =>
      exact map_option?_remark (fun _ => rfl) fun _ => rfl
  | jsonType => exact absurd rfl h
  | omitFields | readInclude | domainMapping =>
      exact map_option?_remark (fun _ => Option.isNone_map) fun _ => rfl

theorem map_option?_flatMap {keys : List OptionKey} (h : ∀ key ∈ keys, key ≠ jsonType) :
    (keys.flatMap options.remarks).map Warning.option? =
      (keys.filter options.rejects).map fun key => some key.name := by
  induction keys with
  | nil => rfl
  | cons key rest ih =>
      obtain ⟨first, others⟩ := List.forall_mem_cons.mp h
      rw [List.flatMap_cons, List.map_append, map_option?_remarks first, ih others,
        List.filter_cons]
      split <;> rfl

/-! ## One by one -/

/-- Every option is read by itself. -/
structure OneByOne (options : Options) : Prop where
  /-- A member is what the option says, or its default. -/
  member : ∀ key : OptionKey, key.member options.settings =
    ((options.text? key.name).bind key.rule).getD (key.member {})
  /-- What stands under the key of an option has a say in no other member. -/
  others : ∀ (key : OptionKey) (other : Options),
    (∀ name, name ≠ key.name → options.get? name = other.get? name) →
      ∀ key' ≠ key, key'.member options.settings = key'.member other.settings
  /-- What stands under any other key has no say in the member. -/
  own : ∀ (key : OptionKey) (other : Options), options.get? key.name = other.get? key.name →
    key.member options.settings = key.member other.settings
  /-- An option that says nothing, or something that its rule rejects, can be left out. -/
  malformed : ∀ key : OptionKey,
    options.get? key.name = some (.repeated []) ∨ options.rejects key = true →
      options.settings = Options.settings (options.erase key.name)
  /-- Of several texts, only the first one counts. -/
  repeated : ∀ (name first : String) (rest : List String),
    let several : Options := options.insert name (.repeated (first :: rest))
    let one : Options := options.insert name (.single first)
    several.settings = one.settings ∧ several.warnings = one.warnings
  /-- Without a rule, an option has no effect. -/
  unknown : ∀ other : Options,
    (∀ name ∈ all.map OptionKey.name, options.get? name = other.get? name) →
      options.settings = other.settings ∧ options.warnings = other.warnings
  /-- There is a remark on each option that is rejected, other than the JSON type, in the order
  of the rules.  It names its option. -/
  warnings : options.warnings.map Warning.option? =
    ((all.erase jsonType).filter options.rejects).map fun key => some key.name
  /-- The order of the entries does not count. -/
  order : ∀ entries, entries.Perm options.entries →
    Options.settings (.ofList entries) = options.settings ∧
      Options.warnings (.ofList entries) = options.warnings

/-- An option that gives no value can be left out. -/
theorem settings_erase {key : OptionKey}
    (h : (options.text? key.name).bind key.rule = none) :
    options.settings = Options.settings (options.erase key.name) := by
  refine settings_ext fun other => ?_
  by_cases same : other = key
  · subst same
    have erased : Options.text? (options.erase other.name) other.name = none := by
      rw [text?, Dict.get?_erase_self]
      rfl
    rw [member_settings, member_settings, h, erased]
    rfl
  · have ne : other.name ≠ key.name := fun eq => same (name_injective eq)
    exact member_of_text? (text?_congr (options.get?_erase_of_ne ne).symm)

/-- A malformed option is as good as none, and has a say in nothing else. -/
theorem read_one_by_one (options : Options) : options.OneByOne where
  member := member_settings options
  others key other agree key' ne :=
    member_of_text? (text?_congr (agree key'.name fun eq => ne (name_injective eq)))
  own key other agree := member_of_text? (text?_congr agree)
  malformed key := by
    rintro (empty | rejected)
    · have absent : options.text? key.name = none := by
        rw [text?, empty]
        rfl
      exact settings_erase (by rw [absent]; rfl)
    · exact settings_erase (bind_rule_of_rejects rejected)
  repeated name first rest := by
    intro several one
    have texts (key : String) : several.text? key = one.text? key := by
      rw [text?, text?, Dict.get?_insert, Dict.get?_insert]
      split <;> rfl
    exact ⟨settings_of_texts fun key => texts key.name, warnings_of_texts fun key => texts key.name⟩
  unknown other agree := by
    have texts (key : OptionKey) : options.text? key.name = other.text? key.name :=
      text?_congr (agree _ (List.mem_map_of_mem (mem_all key)))
    exact ⟨settings_of_texts texts, warnings_of_texts texts⟩
  warnings := by
    rw [warnings_eq]
    exact map_option?_flatMap (by decide)
  order entries perm := by
    rw [Dict.ofList_of_perm perm]
    exact ⟨rfl, rfl⟩

/-- An empty JSON type is passed over in silence. -/
example : Options.warnings (.ofList [("clean", .repeated ["yes", "true"]), ("jsonType", .single ""),
      ("domainMapping", .single "[]"), ("emitBarrel", .single "True")]) =
    [.notBoolean "emitBarrel" "True", .notBoolean "clean" "yes", .unreadable "domainMapping"] := by
  decide

end Options

end SchemaDto
