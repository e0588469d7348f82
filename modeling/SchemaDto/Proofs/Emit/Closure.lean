/-
# Classes are closed under their imports

The imports of a class and its properties are written in two passes over its fields.
Each pass takes from a field what its appearance carries, so they agree: every
decorator and every enumeration that a property uses is imported, and what is imported is
used (`closed_of_classFile`).  There is one exception, since the imports look at the type
of a field as well: a field of the type `Json` brings in the validator of objects, also
where it refers to an enumeration and is validated as one.
-/
import SchemaDto.Proofs.Emit.Fields

namespace SchemaDto

/-! ## What a class uses -/

/-- The enumeration that the entry names. -/
def SwaggerOption.enumName? : SwaggerOption → Option String
  | .typeReference name => some name
  | .enumReference name => some name
  | .enumName name => some name
  | _ => none

/-- The enumerations that the decorators of the property name. -/
def Property.enumNames (property : Property) : List String :=
  property.options.filterMap SwaggerOption.enumName?

/-- The TypeScript types that are there without an import. -/
def Scalar.tsTypes : List String := (unknown :: table.map (·.2)).map (·.tsType)

namespace ClassFile

/-- The names of the validators that the properties call. -/
def usedValidators (file : ClassFile) : List String :=
  file.properties.map (·.check.validator.name)

/-- The enumerations that the properties name. -/
def usedEnums (file : ClassFile) : List String := file.properties.flatMap Property.enumNames

/-- The lists of names that the file imports from a module, one for each statement. -/
def importsFrom (file : ClassFile) (source : String) : List (List String) :=
  (file.imports.filter (·.source == source)).map (·.names)

/-- The class has these fields and this folder; it uses what it imports, and imports what it
uses. -/
structure Closed (file : ClassFile) (fields : List Field) (folder : Option String) : Prop where
  /-- One statement imports the decorators of the API description. -/
  decorators : ∃ names, file.importsFrom swaggerSource = [names] ∧
    ∀ property ∈ file.properties, property.presence.decorator ∈ names
  /-- One statement imports the validators, if there are fields.  A JSON field may bring in one
  that is not used. -/
  validators : ∃ names, file.importsFrom validatorSource = (if fields = [] then [] else [names]) ∧
    names.Pairwise (· < ·) ∧ (∀ name ∈ file.usedValidators, name ∈ names) ∧
    ∀ name ∈ names, name ∈ file.usedValidators ∨
      (name = "IsObject" ∧ ∃ field ∈ fields, field.type = "Json")
  /-- One statement imports the enumerations, if there are any. -/
  enums : ∃ names, file.importsFrom (rootSpecifier folder enumsModule) =
      (if ∃ field ∈ fields, field.enumName ≠ none then [names] else []) ∧
    names.Pairwise (· < ·) ∧ ∀ name, name ∈ names ↔ name ∈ file.usedEnums
  /-- There are no other imports. -/
  sources : ∀ statement ∈ file.imports,
    statement.source ∈ [swaggerSource, validatorSource, rootSpecifier folder enumsModule]
  /-- The enumerations that are used are those that the fields refer to. -/
  usedEnums : ∀ name, name ∈ file.usedEnums ↔ ∃ field ∈ fields, field.enumName = some name
  /-- The type of a property is an enumeration that its decorators name, or is there without an
  import. -/
  types : ∀ property ∈ file.properties, property.type.base ∈ property.enumNames ∨
    (property.enumNames = [] ∧ property.type.base ∈ Scalar.tsTypes)

end ClassFile

/-! ## What the properties use -/

namespace Typing

variable {typing : Typing} {field : Field} {readOnly : Bool}

theorem mem_enumNames_property {name : String} :
    name ∈ (typing.property field readOnly).enumNames ↔ typing.enumName = some name := by
  rw [Property.enumNames, List.mem_filterMap]
  constructor
  · rintro ⟨entry, mem, named⟩
    rcases mem_swaggerOptions.mp mem with ofType | ⟨-, rfl⟩ | ⟨-, rfl⟩
    · rcases mem_typeOptions.mp ofType with ⟨-, other, isEnum, rfl⟩ |
        ⟨-, other, isEnum, rfl | rfl⟩ | ⟨-, rfl⟩ | ⟨-, rfl⟩ | ⟨-, -, ⟨format, -, rfl⟩ | ⟨-, rfl⟩⟩
      all_goals cases named
      all_goals exact isEnum
    · cases named
    · cases named
  · intro isEnum
    cases isArray : typing.isArray with
    | true =>
        have ofType : .typeReference name ∈ typing.typeOptions :=
          mem_typeOptions.mpr (.inl ⟨isArray, name, isEnum, rfl⟩)
        exact ⟨_, mem_swaggerOptions.mpr (.inl ofType), rfl⟩
    | false =>
        have ofType : .enumReference name ∈ typing.typeOptions :=
          mem_typeOptions.mpr (.inr (.inl ⟨isArray, name, isEnum, .inl rfl⟩))
        exact ⟨_, mem_swaggerOptions.mpr (.inl ofType), rfl⟩

end Typing

theorem Scalar.tsType_ofTag_mem (tag : String) : (ofTag tag).tsType ∈ tsTypes :=
  List.mem_map_of_mem (ofTag_mem tag)

namespace Catalogue

variable {catalogue : Catalogue} {fields : List Field} {readOnly : Bool}
  {properties : List Property}

/-- The property of a field comes from what its appearance carries. -/
theorem exists_carries_of_property {field : Field} {property : Property}
    (h : catalogue.property field readOnly = .ok property) :
    ∃ typing : Typing, typing.Carries field ∧ property = typing.property field readOnly := by
  obtain ⟨typing, typed, rfl⟩ := map_eq_ok_iff.mp h
  exact ⟨typing, carries_of_typing typed, rfl⟩

theorem validators_of_properties
    (made : fields.mapM (catalogue.property · readOnly) = .ok properties) :
    properties.map (·.check.validator.name) = fields.map (·.validator.name) := by
  refine map_of_mapM_eq_ok made fun field property step => ?_
  obtain ⟨typing, carried, rfl⟩ := exists_carries_of_property step
  exact congrArg Validator.name carried.validator

theorem mem_enumNames_of_properties
    (made : fields.mapM (catalogue.property · readOnly) = .ok properties) {name : String} :
    name ∈ properties.flatMap Property.enumNames ↔
      ∃ field ∈ fields, field.enumName = some name := by
  rw [List.mem_flatMap]
  constructor
  · rintro ⟨property, mem, used⟩
    obtain ⟨field, isField, step⟩ := (mem_of_mapM_eq_ok made).mp mem
    obtain ⟨typing, carried, rfl⟩ := exists_carries_of_property step
    exact ⟨field, isField, carried.enumName ▸ Typing.mem_enumNames_property.mp used⟩
  · rintro ⟨field, isField, isEnum⟩
    obtain ⟨property, mem, step⟩ := exists_of_mapM_eq_ok made isField
    obtain ⟨typing, carried, rfl⟩ := exists_carries_of_property step
    exact ⟨_, mem, Typing.mem_enumNames_property.mpr (carried.enumName.trans isEnum)⟩

theorem type_of_property {field : Field} {property : Property}
    (h : catalogue.property field readOnly = .ok property) :
    property.type.base ∈ property.enumNames ∨
      (property.enumNames = [] ∧ property.type.base ∈ Scalar.tsTypes) := by
  obtain ⟨typing, carried, rfl⟩ := exists_carries_of_property h
  have base : (typing.property field readOnly).type.base = _ := carried.tsType
  rw [base]
  cases isEnum : field.enumName with
  | some name => exact .inl (Typing.mem_enumNames_property.mpr (carried.enumName.trans isEnum))
  | none =>
      have built : (Scalar.ofTag field.type).tsType ∈ Scalar.tsTypes := Scalar.tsType_ofTag_mem _
      refine .inr ⟨List.eq_nil_iff_forall_not_mem.mpr fun name used => ?_, built⟩
      have named := carried.enumName ▸ Typing.mem_enumNames_property.mp used
      cases isEnum.symm.trans named

end Catalogue

/-! ## What the imports bring in -/

theorem relative_rootSpecifier (folder : Option String) (module : String) (names : List String) :
    (⟨names, rootSpecifier folder module⟩ : Import).IsRelative := by
  show (rootSpecifier folder module).toList.head? = some '.'
  unfold rootSpecifier
  split
  · simp
  · next depth deep =>
      cases h : folder.elim 0 folderDepth with
      | zero => exact absurd h deep
      | succ depth => simp [List.replicate_succ]

theorem rootSpecifier_ne {source : String} (package : ¬(⟨[], source⟩ : Import).IsRelative)
    (folder : Option String) (module : String) : rootSpecifier folder module ≠ source := by
  rintro rfl
  exact package (relative_rootSpecifier folder module [])

/-- Of an import of names, what comes from a given module. -/
theorem Import.names_filter_ofNames (names : List String) (source source' : String) :
    ((ofNames names source).filter (·.source == source')).map (·.names) =
      if source = source' ∧ names ≠ [] then [names] else [] := by
  unfold ofNames
  cases names with
  | nil => simp
  | cons first rest => by_cases same : source = source' <;> simp [same]

section ImportsFrom

variable {file : ClassFile} {fields : List Field} {typings : List Typing} {folder : Option String}
  (imports : file.imports = importsOf fields typings folder)

include imports

theorem importsFrom_eq (source : String) : file.importsFrom source =
    (if swaggerSource = source then
      [[Presence.required.decorator, Presence.optional.decorator]] else []) ++
    (if validatorSource = source ∧ validatorNames fields typings ≠ [] then
      [validatorNames fields typings] else []) ++
    if rootSpecifier folder enumsModule = source ∧ importedEnums typings ≠ [] then
      [importedEnums typings] else [] := by
  have swagger (names : List String) :
      ([⟨names, swaggerSource⟩].filter fun statement : Import => statement.source == source).map
        (·.names) = if swaggerSource = source then [names] else [] := by
    by_cases same : swaggerSource = source <;> simp [same]
  rw [ClassFile.importsFrom, imports, importsOf, List.filter_append, List.filter_append,
    List.map_append, List.map_append, swagger, Import.names_filter_ofNames,
    Import.names_filter_ofNames]

theorem importsFrom_swagger : file.importsFrom swaggerSource =
    [[Presence.required.decorator, Presence.optional.decorator]] := by
  have root := rootSpecifier_ne (not_relative_swagger []) folder enumsModule
  have validator : validatorSource ≠ swaggerSource := by decide
  simp [importsFrom_eq imports, root, validator]

theorem importsFrom_validator : file.importsFrom validatorSource =
    if validatorNames fields typings = [] then [] else [validatorNames fields typings] := by
  have root := rootSpecifier_ne (not_relative_validator []) folder enumsModule
  have swagger : swaggerSource ≠ validatorSource := by decide
  simp [importsFrom_eq imports, root, swagger]

theorem importsFrom_root : file.importsFrom (rootSpecifier folder enumsModule) =
    if importedEnums typings = [] then [] else [importedEnums typings] := by
  have swagger := (rootSpecifier_ne (not_relative_swagger []) folder enumsModule).symm
  have validator := (rootSpecifier_ne (not_relative_validator []) folder enumsModule).symm
  simp [importsFrom_eq imports, swagger, validator]

theorem mem_flatten_importsFrom {name source : String} :
    name ∈ (file.importsFrom source).flatten ↔
      (swaggerSource = source ∧ name ∈ [Presence.required.decorator, Presence.optional.decorator]) ∨
      (validatorSource = source ∧ name ∈ validatorNames fields typings) ∨
      (rootSpecifier folder enumsModule = source ∧ name ∈ importedEnums typings) := by
  have stated (names : List String) (isFrom : Prop) [Decidable isFrom] :
      name ∈ (if isFrom then [names] else []).flatten ↔ isFrom ∧ name ∈ names := by
    by_cases h : isFrom <;> simp [h]
  have nonempty (names : List String) : names ≠ [] ∧ name ∈ names ↔ name ∈ names :=
    and_iff_right_of_imp List.ne_nil_of_mem
  rw [importsFrom_eq imports, List.flatten_append, List.flatten_append, List.mem_append,
    List.mem_append, stated, stated, stated, and_assoc, and_assoc, nonempty, nonempty, or_assoc]

end ImportsFrom

theorem source_of_mem_importsOf {fields : List Field} {typings : List Typing}
    {folder : Option String} {statement : Import}
    (mem : statement ∈ importsOf fields typings folder) :
    statement.source ∈ [swaggerSource, validatorSource, rootSpecifier folder enumsModule] := by
  rcases List.mem_append.mp mem with mem | mem
  · rcases List.mem_append.mp mem with mem | mem
    · rw [List.mem_singleton.mp mem]
      exact List.mem_cons_self
    · rw [mem_ofNames mem]
      exact List.mem_cons_of_mem _ List.mem_cons_self
  · rw [mem_ofNames mem]
    exact List.mem_cons_of_mem _ (List.mem_cons_of_mem _ (List.mem_singleton_self _))

/-! ## Both agree -/

namespace Catalogue

variable {catalogue : Catalogue} {name : String} {fields : List Field} {typings : List Typing}
  {readOnly : Bool} {folder : Option String} {cls : ClassFile}

theorem mem_validatorNames (typed : catalogue.typings fields = .ok typings) {name : String} :
    name ∈ validatorNames fields typings ↔ name ∈ fields.map (·.validator.name) ∨
      (name = "IsObject" ∧ ∃ field ∈ fields, field.type = "Json") := by
  have names : typings.map (·.validator.name) = fields.map (·.validator.name) :=
    map_of_mapM_eq_ok typed fun field typing step =>
      congrArg Validator.name (carries_of_typing step).validator
  have json : fields.any (·.type == jsonTag) = true ↔ ∃ field ∈ fields, field.type = "Json" := by
    simp [jsonTag]
  rw [validatorNames, mem_ascending, List.mem_append, names]
  refine or_congr_right ?_
  split
  · next some => simp [json.mp some, Validator.name]
  · next none => simp [mt json.mpr none]

theorem validatorNames_eq_nil_iff (typed : catalogue.typings fields = .ok typings) :
    validatorNames fields typings = [] ↔ fields = [] := by
  constructor
  · intro none
    by_contra some
    obtain ⟨field, isField⟩ := List.exists_mem_of_ne_nil fields some
    have used := (mem_validatorNames typed).mpr (.inl (List.mem_map_of_mem isField))
    rw [none] at used
    exact absurd used List.not_mem_nil
  · rintro rfl
    refine List.eq_nil_iff_forall_not_mem.mpr fun name mem => ?_
    rcases (mem_validatorNames typed).mp mem with mem | ⟨-, field, mem, -⟩
    · exact absurd mem List.not_mem_nil
    · exact absurd mem List.not_mem_nil

theorem mem_importedEnums (typed : catalogue.typings fields = .ok typings) {name : String} :
    name ∈ importedEnums typings ↔ ∃ field ∈ fields, field.enumName = some name := by
  rw [importedEnums_of_typings typed, mem_ascending, List.mem_filterMap]

theorem importedEnums_eq_nil_iff (typed : catalogue.typings fields = .ok typings) :
    importedEnums typings = [] ↔ ¬∃ field ∈ fields, field.enumName ≠ none := by
  rw [List.eq_nil_iff_forall_not_mem]
  constructor
  · rintro none ⟨field, isField, isEnum⟩
    obtain ⟨name, named⟩ := Option.ne_none_iff_exists'.mp isEnum
    exact none name ((mem_importedEnums typed).mpr ⟨field, isField, named⟩)
  · intro none name mem
    obtain ⟨field, isField, named⟩ := (mem_importedEnums typed).mp mem
    exact none ⟨field, isField, by rw [named]; exact Option.some_ne_none name⟩

/-- A class imports what its properties use, each name from its module, and nothing else but for
the validator of objects. -/
theorem closed_of_classFile (h : catalogue.classFile name fields readOnly folder = .ok cls) :
    cls.Closed fields folder := by
  obtain ⟨imports, properties, imported, made, rfl⟩ := classFile_eq_ok_iff.mp h
  obtain ⟨typings, typed, rfl⟩ := map_eq_ok_iff.mp imported
  have validators := validators_of_properties made
  have enums : ∀ name, name ∈ properties.flatMap Property.enumNames ↔
      ∃ field ∈ fields, field.enumName = some name := fun _ => mem_enumNames_of_properties made
  exact
    { decorators := by
        refine ⟨_, importsFrom_swagger rfl, fun property mem => ?_⟩
        cases property.presence with
        | required => exact List.mem_cons_self
        | optional => exact List.mem_cons_of_mem _ (List.mem_singleton_self _)
      validators := by
        refine ⟨validatorNames fields typings, ?_, ascending_pairwise _, fun name used => ?_,
          fun name mem => ?_⟩
        · rw [importsFrom_validator rfl]
          simp only [validatorNames_eq_nil_iff typed]
        · exact (mem_validatorNames typed).mpr (.inl (validators ▸ used))
        · exact ((mem_validatorNames typed).mp mem).imp_left fun ofField => by
            rw [ClassFile.usedValidators, validators]
            exact ofField
      enums := by
        refine ⟨importedEnums typings, ?_, ascending_pairwise _, fun name => ?_⟩
        · rw [importsFrom_root rfl]
          simp only [importedEnums_eq_nil_iff typed, ite_not]
        · rw [mem_importedEnums typed]
          exact (enums name).symm
      sources := fun statement mem => source_of_mem_importsOf mem
      usedEnums := enums
      types := by
        intro property mem
        obtain ⟨field, -, step⟩ := (mem_of_mapM_eq_ok made).mp mem
        exact type_of_property step }

/-- A text, and a list of an enumeration that is called `Json`. -/
def envelopeFields : List Field :=
  [{ name := "email", type := "String" },
   { name := "format", type := "Json", isArray := true, enumName := some "Json" }]

/-- The validator of objects is imported without a use: the type of the second field is `Json`. -/
theorem envelope_closed : ∃ cls,
    (ofList [⟨"Json", ["RAW"]⟩]).classFile "EnvelopeDto" envelopeFields true (some "core/mail") =
      .ok cls ∧ cls.Closed envelopeFields (some "core/mail") ∧
    cls.importsFrom validatorSource = [["IsEmail", "IsEnum", "IsObject"]] ∧
    cls.usedValidators = ["IsEmail", "IsEnum"] ∧
    cls.importsFrom "../../enums" = [["Json"]] ∧ cls.usedEnums = ["Json"] := by
  obtain ⟨cls, written, rest⟩ : ∃ cls,
      (ofList [⟨"Json", ["RAW"]⟩]).classFile "EnvelopeDto" envelopeFields true (some "core/mail") =
        .ok cls ∧
      cls.importsFrom validatorSource = [["IsEmail", "IsEnum", "IsObject"]] ∧
      cls.usedValidators = ["IsEmail", "IsEnum"] ∧
      cls.importsFrom "../../enums" = [["Json"]] ∧ cls.usedEnums = ["Json"] :=
    ⟨_, rfl, by decide, by decide, by decide, by decide⟩
  exact ⟨cls, written, closed_of_classFile written, rest⟩

end Catalogue

end SchemaDto
