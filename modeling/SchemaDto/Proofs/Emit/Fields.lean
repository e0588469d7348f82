/-
# Classes say what their fields are

Whatever the built-in types and the identifiers of a schema bring into the text of
a class is free of line breaks and of the signs of a declaration.  So the texts of
the creating and of the reading class read back as their fields, one declaration
for each field that is kept, in order (`declares_kept_fields`).
-/
import SchemaDto.Proofs.Emit.ClassText
import SchemaDto.Proofs.Emit.Imports
import SchemaDto.Proofs.Emit.Property
import SchemaDto.Proofs.Text.Lines

namespace SchemaDto

open Text

/-! ## Appearances -/

/-- The parts of an appearance hold none of the signs that stand around them. -/
structure Typing.Plain (typing : Typing) : Prop where
  base : FreeOf ['\n', '|', ']'] typing.tsType
  swagger : '\n' ∉ typing.swaggerType.toList
  format : ∀ format ∈ typing.swaggerFormat, '\n' ∉ format.toList
  enum : ∀ name ∈ typing.enumName, '\n' ∉ name.toList

theorem Scalar.ofTag_mem (tag : String) : ofTag tag ∈ unknown :: table.map (·.2) := by
  unfold ofTag
  cases found : table.lookup tag with
  | none => exact List.mem_cons_self
  | some scalar =>
      obtain ⟨before, after, eq, -⟩ := List.lookup_eq_some_iff.mp found
      refine List.mem_cons_of_mem _ (List.mem_map.mpr ⟨(tag, scalar), ?_, rfl⟩)
      rw [eq]
      exact List.mem_append_right _ List.mem_cons_self

theorem Scalar.free_of_signs : ∀ scalar ∈ unknown :: table.map (·.2),
    FreeOf ['\n', '|', ']'] scalar.tsType ∧ '\n' ∉ scalar.swaggerType.toList ∧
      ∀ format ∈ scalar.swaggerFormat, '\n' ∉ format.toList := by
  decide

namespace Field

theorem plain_scalarTyping (field : Field) : field.scalarTyping.Plain := by
  obtain ⟨base, swagger, format⟩ := Scalar.free_of_signs _ (Scalar.ofTag_mem field.type)
  exact
    { base := base
      swagger := swagger
      format := format
      enum := by
        intro name absent
        cases absent }

theorem plain_enumTyping {enum : Enumeration} (h : IsIdentifier enum.name) (field : Field) :
    (field.enumTyping enum).Plain := by
  have free : FreeOf ['\n', '|', ']'] enum.name := h.freeOf (by decide)
  have noBreak : '\n' ∉ enum.name.toList := free '\n' (by decide)
  exact
    { base := free
      swagger := noBreak
      format := by
        intro format absent
        cases absent
      enum := by
        intro name eq
        cases eq
        exact noBreak }

end Field

namespace Catalogue

variable {catalogue : Catalogue} {field : Field} {typing : Typing}

theorem plain_of_typing (identifiers : ∀ name ∈ catalogue.names, IsIdentifier name)
    (h : catalogue.typing field = .ok typing) : typing.Plain := by
  rcases typing_cases h with ⟨-, rfl⟩ | ⟨enum, declared, -, rfl⟩
  · exact field.plain_scalarTyping
  · exact field.plain_enumTyping (identifiers _ declared)

end Catalogue

/-! ## Properties -/

/-- What a field is declared as. -/
def Field.declaration (field : Field) : Declaration where
  name := field.name
  isMarked := field.isOptional && !field.isNullable
  type := ⟨field.enumName.getD (Scalar.ofTag field.type).tsType, field.isArray, field.isNullable⟩

theorem Catalogue.declaration_property {catalogue : Catalogue} {field : Field} {typing : Typing}
    (h : catalogue.typing field = .ok typing) (readOnly : Bool) :
    (typing.property field readOnly).parts.declaration = field.declaration := by
  have carried := carries_of_typing h
  simp only [Property.parts, Typing.property, Typing.isMarked, Typing.type, Field.declaration,
    carried.tsType, carried.isArray, carried.isOptional, carried.isNullable]

namespace Typing

variable {typing : Typing} {field : Field} {readOnly : Bool}

theorem newline_not_mem_typeOption (plain : typing.Plain) {entry : SwaggerOption}
    (mem : entry ∈ typing.typeOptions) : '\n' ∉ entry.render.toList := by
  rcases mem_typeOptions.mp mem with ⟨-, name, isEnum, rfl⟩ | ⟨-, name, isEnum, rfl | rfl⟩ |
    ⟨-, rfl⟩ | ⟨-, rfl⟩ | ⟨-, -, ⟨format, given, rfl⟩ | ⟨-, rfl⟩⟩
  · simpa [SwaggerOption.render] using plain.enum name isEnum
  · simpa [SwaggerOption.render] using plain.enum name isEnum
  · simpa [SwaggerOption.render] using plain.enum name isEnum
  · simpa [SwaggerOption.render] using plain.swagger
  · decide
  · simpa [SwaggerOption.render] using plain.format format given
  · decide

theorem newline_not_mem_option (plain : typing.Plain) {entry : SwaggerOption}
    (mem : entry ∈ typing.swaggerOptions field readOnly) : '\n' ∉ entry.render.toList := by
  rcases mem_swaggerOptions.mp mem with ofType | ⟨-, rfl⟩ | ⟨-, rfl⟩
  · exact newline_not_mem_typeOption plain ofType
  · decide
  · decide

/-- A field whose name is an identifier becomes a legible property. -/
theorem legible_property (plain : typing.Plain) (name : IsIdentifier field.name) :
    (typing.property field readOnly).Legible where
  api := by
    have options : '\n' ∉ (", ".intercalate
        ((typing.property field readOnly).options.map SwaggerOption.render)).toList := by
      refine not_mem_intercalate (by decide) ?_
      intro text mem
      obtain ⟨entry, isEntry, rfl⟩ := List.mem_map.mp mem
      exact newline_not_mem_option plain isEntry
    have decorator : '\n' ∉ (typing.property field readOnly).presence.decorator.toList := by
      cases (typing.property field readOnly).presence <;> decide
    simp only [Property.apiDecorator, String.toList_append, List.mem_append, not_or]
    exact ⟨⟨⟨⟨by decide, decorator⟩, by decide⟩, options⟩, by decide⟩
  name := name.freeOf (by decide)
  base := plain.base

end Typing

/-! ## Imports -/

theorem Import.newline_not_mem_render {statement : Import}
    (names : ∀ name ∈ statement.names, '\n' ∉ name.toList)
    (source : '\n' ∉ statement.source.toList) : '\n' ∉ statement.render.toList := by
  have list : '\n' ∉ (", ".intercalate statement.names).toList :=
    not_mem_intercalate (by decide) names
  simp only [Import.render, String.toList_append, List.mem_append, not_or]
  exact ⟨⟨⟨⟨by decide, list⟩, by decide⟩, source⟩, by decide⟩

theorem newline_not_mem_rootSpecifier (folder : Option String) :
    '\n' ∉ (rootSpecifier folder enumsModule).toList := by
  have module : '\n' ∉ enumsModule.toList := by decide
  unfold rootSpecifier
  split
  · decide
  · have up : ∀ depth, '\n' ∉ (String.join (List.replicate depth "../")).toList := by
      intro depth mem
      rw [String.toList_join] at mem
      obtain ⟨step, isStep, inStep⟩ := List.mem_flatMap.mp mem
      rw [List.eq_of_mem_replicate isStep] at inStep
      exact absurd inStep (by decide)
    rw [String.toList_append, List.mem_append, not_or]
    exact ⟨up _, module⟩

theorem newline_not_mem_validatorName {fields : List Field} {typings : List Typing}
    {name : String} (mem : name ∈ validatorNames fields typings) : '\n' ∉ name.toList := by
  have named : ∀ validator : Validator, '\n' ∉ validator.name.toList := by
    intro validator
    cases validator <;> decide
  rcases List.mem_append.mp (mem_ascending.mp mem) with mem | mem
  · obtain ⟨typing, -, rfl⟩ := List.mem_map.mp mem
    exact named typing.validator
  · split at mem
    · rw [List.mem_singleton.mp mem]
      exact named .object
    · exact absurd mem List.not_mem_nil

/-- Every import of a class stands on one line. -/
theorem newline_not_mem_importsOf {catalogue : Catalogue} {fields : List Field}
    {typings : List Typing} {folder : Option String}
    (identifiers : ∀ name ∈ catalogue.names, IsIdentifier name)
    (h : catalogue.typings fields = .ok typings) {statement : Import}
    (mem : statement ∈ importsOf fields typings folder) : '\n' ∉ statement.render.toList := by
  rcases List.mem_append.mp mem with mem | mem
  · rcases List.mem_append.mp mem with mem | mem
    · rw [List.mem_singleton.mp mem]
      decide
    · rw [mem_ofNames mem]
      have source : '\n' ∉ validatorSource.toList := by decide
      exact Import.newline_not_mem_render (fun name => newline_not_mem_validatorName) source
  · rw [mem_ofNames mem]
    refine Import.newline_not_mem_render ?_ (newline_not_mem_rootSpecifier folder)
    intro name imported
    have declared := Catalogue.mem_names_of_importedEnums h imported
    have free : FreeOf ['\n'] name := (identifiers name declared).freeOf (by decide)
    exact free '\n' (List.mem_singleton_self _)

/-! ## Classes -/

/-- The text reads as a class of that name with one declaration for each field, and
its body is closed at once exactly if there are no fields. -/
structure Declares (text name : String) (fields : List Field) : Prop where
  reads : ∃ parts, ClassText.read? text = some parts ∧ parts.name = name ∧
    parts.properties.map (·.declaration) = fields.map Field.declaration
  closed : (∃ before, text = before ++ " \x7b\x7d\n") ↔ fields = []

theorem ClassFile.closed_iff {file : ClassFile} (whole : file.partialOf = none) :
    (∃ before, file.render = before ++ " \x7b\x7d\n") ↔ file.properties = [] := by
  have clause : file.clause = "" := by rw [ClassFile.clause, whole]; rfl
  constructor
  · rintro ⟨before, ends⟩
    by_contra some
    have last := congrArg (fun text => text.toList.reverse.take 3) ends
    simp [ClassFile.render, body, clause, some] at last
  · intro none
    refine ⟨Import.renderAll file.imports ++ "\n\nexport class " ++ file.name, ?_⟩
    simp [ClassFile.render, body, clause, none, String.append_assoc]

namespace Catalogue

variable {catalogue : Catalogue} {name : String} {fields : List Field} {readOnly : Bool}
  {folder : Option String} {cls : ClassFile}

/-- A class is written in two passes over its fields, one for the imports and one for the
properties. -/
theorem classFile_eq_bind (catalogue : Catalogue) (name : String) (fields : List Field)
    (readOnly : Bool) (folder : Option String) :
    catalogue.classFile name fields readOnly folder = do
      let imports ← catalogue.imports fields folder
      let properties ← fields.mapM (catalogue.property · readOnly)
      return { imports, name, properties } := by
  rw [classFile, Catalogue.imports]
  cases typed : catalogue.typings fields with
  | error error => rfl
  | ok typings =>
      have properties := mapM_map_of_mapM_eq_ok typed fun typing field =>
        typing.property field readOnly
      have made : fields.mapM (catalogue.property · readOnly) = _ := properties
      rw [made]
      rfl

theorem classFile_eq_ok_iff : catalogue.classFile name fields readOnly folder = .ok cls ↔
    ∃ imports properties, catalogue.imports fields folder = .ok imports ∧
      fields.mapM (catalogue.property · readOnly) = .ok properties ∧
        cls = { imports, name, properties } := by
  rw [classFile_eq_bind]
  simp only [bind_eq_ok_iff]
  constructor
  · rintro ⟨imports, imported, properties, made, eq⟩
    cases eq
    exact ⟨imports, properties, imported, made, rfl⟩
  · rintro ⟨imports, properties, imported, made, rfl⟩
    exact ⟨imports, imported, properties, made, rfl⟩

/-- The properties of a class are those of its fields, one by one. -/
theorem properties_of_classFile (h : catalogue.classFile name fields readOnly folder = .ok cls) :
    fields.mapM (catalogue.property · readOnly) = .ok cls.properties := by
  obtain ⟨imports, properties, -, made, rfl⟩ := classFile_eq_ok_iff.mp h
  exact made

theorem name_of_property {field : Field} {property : Property}
    (h : catalogue.property field readOnly = .ok property) : property.name = field.name := by
  obtain ⟨typing, -, rfl⟩ := map_eq_ok_iff.mp h
  rfl

theorem names_of_classFile (h : catalogue.classFile name fields readOnly folder = .ok cls) :
    cls.properties.map (·.name) = fields.map (·.name) :=
  map_of_mapM_eq_ok (properties_of_classFile h) fun _ _ step => name_of_property step

theorem declares_of_classFile (identifiers : ∀ name ∈ catalogue.names, IsIdentifier name)
    (named : ∀ field ∈ fields, IsIdentifier field.name)
    (h : catalogue.classFile name fields readOnly folder = .ok cls) :
    Declares cls.render name fields := by
  have properties := properties_of_classFile h
  have legible : ∀ property ∈ cls.properties, property.Legible := by
    intro property mem
    obtain ⟨field, isField, step⟩ := (mem_of_mapM_eq_ok properties).mp mem
    obtain ⟨typing, typed, rfl⟩ := map_eq_ok_iff.mp step
    exact Typing.legible_property (plain_of_typing identifiers typed) (named field isField)
  have declarations : cls.properties.map (·.parts.declaration) = fields.map Field.declaration := by
    refine map_of_mapM_eq_ok properties ?_
    intro field property step
    obtain ⟨typing, typed, rfl⟩ := map_eq_ok_iff.mp step
    exact declaration_property typed readOnly
  obtain ⟨typings, typed, rfl⟩ := map_eq_ok_iff.mp h
  have imports : importsOf fields typings folder ≠ [] := List.cons_ne_nil _ _
  have reads := ClassFile.read_render rfl imports
    (fun statement mem => newline_not_mem_importsOf identifiers typed mem) legible
  constructor
  · refine ⟨_, reads, rfl, ?_⟩
    rw [← declarations]
    exact List.map_map
  · rw [ClassFile.closed_iff rfl, ← List.map_eq_nil_iff, declarations, List.map_eq_nil_iff]

/-- The texts of the creating and of the reading class declare the fields that are
kept, in order.  Nothing is asked of the name of the model and of the folder. -/
theorem declares_kept_fields {model : Model} {omitted : List String}
    (identifiers : ∀ name ∈ catalogue.names, IsIdentifier name)
    (named : ∀ field ∈ model.fields, IsIdentifier field.name) :
    (∀ cls, catalogue.readClass model omitted folder = .ok cls →
      Declares cls.render (model.name ++ "Dto") (model.fields.filter fun field =>
        field.name ∉ omitted ∧ field.isRelation = false)) ∧
    (∀ cls, catalogue.createClass model omitted folder = .ok cls →
      Declares cls.render ("Create" ++ model.name ++ "Dto") (model.fields.filter fun field =>
        field.name ∉ omitted ∧ field.isRelation = false ∧
          field.name ∉ ["id", "createdAt", "updatedAt"] ∧ field.isUpdatedAt = false)) := by
  have kept : ∀ {keep : Field → Bool}, ∀ field ∈ model.fields.filter keep,
      IsIdentifier field.name := fun field mem => named field (List.mem_of_mem_filter mem)
  constructor
  · intro cls h
    have fields : model.readFields omitted = model.fields.filter fun field =>
        field.name ∉ omitted ∧ field.isRelation = false := by
      refine List.filter_congr fun field _ => ?_
      simp [Field.isReadable]
    exact fields ▸ declares_of_classFile identifiers kept h
  · intro cls h
    have fields : model.createFields omitted = model.fields.filter fun field =>
        field.name ∉ omitted ∧ field.isRelation = false ∧
          field.name ∉ ["id", "createdAt", "updatedAt"] ∧ field.isUpdatedAt = false := by
      refine List.filter_congr fun field _ => ?_
      rw [Bool.eq_iff_iff]
      simp [Field.isCreatable, managedNames, and_assoc, and_comm, and_left_comm]
    exact fields ▸ declares_of_classFile identifiers kept h

/-- A model with a field of each kind. -/
def account : Model where
  name := "Account"
  fields :=
    [{ name := "id", type := "String", isId := true },
     { name := "email", type := "String" },
     { name := "nick", type := "String", isOptional := true, isNullable := true },
     { name := "active", type := "Boolean", isOptional := true },
     { name := "extra", type := "Json", isArray := true },
     { name := "roles", type := "Role", isArray := true, enumName := some "Role" },
     { name := "owner", type := "Account", isRelation := true },
     { name := "secret", type := "String" }]

theorem account_declared : ∃ cls parts,
    (ofList [⟨"Role", ["ADMIN"]⟩]).createClass account ["secret"] (some "core/account") = .ok cls ∧
      ClassText.read? cls.render = some parts ∧ parts.name = "CreateAccountDto" ∧
      parts.properties.map (·.declaration) =
        [⟨"email", false, ⟨"string", false, false⟩⟩,
         ⟨"nick", false, ⟨"string", false, true⟩⟩,
         ⟨"active", true, ⟨"boolean", false, false⟩⟩,
         ⟨"extra", false, ⟨"Record<string, unknown>", true, false⟩⟩,
         ⟨"roles", false, ⟨"Role", true, false⟩⟩] := by
  obtain ⟨cls, written⟩ : ∃ cls, (ofList [⟨"Role", ["ADMIN"]⟩]).createClass account ["secret"]
      (some "core/account") = .ok cls := ⟨_, rfl⟩
  obtain ⟨parts, reads, name, declarations⟩ :=
    ((declares_kept_fields (by decide) (by decide)).2 cls written).reads
  exact ⟨cls, parts, written, reads, name, declarations⟩

end Catalogue

end SchemaDto
