/-
# Read-only properties of creating classes

A field is read-only on its own account if it identifies a record or holds the time
of its last update.  The creating class leaves the second kind out by its flag, and
the first kind only by its name: an identifying field that is not called `id` is
kept, and its property is marked read-only.  So the creating class holds writable
properties only exactly if no such field is left (`writable_iff`).
-/
import SchemaDto.Proofs.Emit.Fields
import SchemaDto.Proofs.Output.Failure

namespace SchemaDto

/-! ## The mark of a property -/

/-- The property is marked read-only. -/
def Property.isReadOnly (property : Property) : Bool := property.options.contains .readOnly

theorem Typing.isReadOnly_property (typing : Typing) (field : Field) (readOnly : Bool) :
    (typing.property field readOnly).isReadOnly = (readOnly || field.isReadOnly) := by
  rw [Bool.eq_iff_iff]
  simp [Property.isReadOnly, Typing.property, mem_swaggerOptions, mem_typeOptions]

/-! ## The properties of a class -/

/-- The marked properties of a class are those of the fields that are read-only on
their own account. -/
theorem Catalogue.names_of_readOnly {catalogue : Catalogue} {name : String} {fields : List Field}
    {folder : Option String} {cls : ClassFile}
    (h : catalogue.classFile name fields false folder = .ok cls) :
    (cls.properties.filter Property.isReadOnly).map (·.name) =
      (fields.filter Field.isReadOnly).map (·.name) := by
  have marked : ∀ field property, catalogue.property field false = .ok property →
      property.isReadOnly = field.isReadOnly := by
    intro field property step
    obtain ⟨typing, -, rfl⟩ := map_eq_ok_iff.mp step
    rw [Typing.isReadOnly_property, Bool.false_or]
  have kept := mapM_filter_of_mapM_eq_ok (properties_of_classFile h) marked
  exact map_of_mapM_eq_ok kept fun _ _ step => name_of_property step

namespace Request

variable {request : Request} {files : List File}

/-- The field identifies a record, and nothing keeps it out of the creating class. -/
def KeptIdentity (request : Request) (model : ModelDecl) (field : FieldDecl) : Prop :=
  field.isId = true ∧ field.relationName = none ∧
    field.name ∉ request.settings.omitted model.name ∧ field.IsSettable

instance (model : ModelDecl) (field : FieldDecl) : Decidable (request.KeptIdentity model field) :=
  inferInstanceAs (Decidable (_ ∧ _))

theorem keptIdentity_iff {enums : List Enumeration} {model : ModelDecl} {field : FieldDecl} :
    request.KeptIdentity model field ↔
      (field.resolve enums).isReadOnly = true ∧
        (field.resolve enums).isCreatable (request.settings.omitted model.name) = true := by
  rw [isCreatable_resolve, isReadable_resolve]
  constructor
  · rintro ⟨isId, relation, kept, settable⟩
    have readOnly : (field.resolve enums).isReadOnly = true := by
      simp [Field.isReadOnly, FieldDecl.resolve, isId]
    exact ⟨readOnly, ⟨relation, kept⟩, settable⟩
  · rintro ⟨readOnly, ⟨relation, kept⟩, settable⟩
    have noUpdate := FieldDecl.isUpdatedAt_getD_iff.mpr settable.2
    have isId : field.isId = true := by
      simpa [Field.isReadOnly, FieldDecl.resolve, noUpdate] using readOnly
    exact ⟨isId, relation, kept, settable⟩

theorem names_of_keptIdentity (enums : List Enumeration) (model : ModelDecl) :
    (((model.resolve enums).createFields (request.settings.omitted model.name)).filter
      Field.isReadOnly).map (·.name) =
        (model.fields.filter fun field => request.KeptIdentity model field).map (·.name) := by
  have kept : ∀ field : FieldDecl, ((field.resolve enums).isReadOnly &&
      (field.resolve enums).isCreatable (request.settings.omitted model.name)) =
        decide (request.KeptIdentity model field) := by
    intro field
    rw [Bool.eq_iff_iff, Bool.and_eq_true, decide_eq_true_iff, keptIdentity_iff]
  rw [Model.createFields, List.filter_filter, ModelDecl.resolve, List.filter_map, List.map_map]
  exact congrArg _ (List.filter_congr fun field _ => kept field)

/-- Every declared model of a successful request has a creating class.  Its properties
that are marked read-only are those of the identifying fields that are kept; hence
none is so exactly if no identifying field is kept. -/
theorem writable_iff (run : request.run = .ok files) {model : ModelDecl}
    (mem : model ∈ request.document.models) :
    ∃ cls, request.generator.classOf (model.resolve request.document.enums) .create = .ok cls ∧
      request.generator.classFile model.name .create cls ∈ files ∧
      (cls.properties.filter Property.isReadOnly).map (·.name) =
        (model.fields.filter fun field => request.KeptIdentity model field).map (·.name) ∧
      ((∀ property ∈ cls.properties, .readOnly ∉ property.options) ↔
        ∀ field ∈ model.fields, ¬request.KeptIdentity model field) := by
  have isModel : model.resolve request.document.enums ∈ request.document.resolve.models :=
    List.mem_map_of_mem mem
  obtain ⟨cls, step⟩ := Generator.exists_classOf run isModel .create
  have isFile := Generator.classFile_mem run isModel step
  have marked := (Catalogue.names_of_readOnly step).trans
    (names_of_keptIdentity request.document.enums model)
  refine ⟨cls, step, isFile, marked, ?_⟩
  have none : cls.properties.filter Property.isReadOnly = [] ↔
      model.fields.filter (fun field => request.KeptIdentity model field) = [] := by
    rw [← List.map_eq_nil_iff, marked, List.map_eq_nil_iff]
  simpa [List.filter_eq_nil_iff, Property.isReadOnly] using none

/-- Two models with an identifying field: one is called `id`, the other one is not. -/
def atlas : Request where
  document :=
    { models :=
        [{ name := "Country"
           fields := [{ name := "code", type := "String", isRequired := true, isId := true }] },
         { name := "City"
           fields :=
             [{ name := "id", type := "String", isRequired := true, isId := true },
              { name := "name", type := "String", isRequired := true }] }] }

theorem atlas_city_writable : ∃ files cls, atlas.run = .ok files ∧
    atlas.generator.classFile "City" .create cls ∈ files ∧
      ∀ property ∈ cls.properties, .readOnly ∉ property.options := by
  obtain ⟨files, run⟩ : ∃ files, atlas.run = .ok files := ⟨_, rfl⟩
  have isModel : atlas.document.models[1] ∈ atlas.document.models := List.getElem_mem _
  obtain ⟨cls, -, isFile, -, writable⟩ := writable_iff run isModel
  exact ⟨files, cls, run, isFile, writable.mpr (by decide)⟩

/-- The code of a country is not called `id`: it is kept and marked read-only. -/
theorem atlas_country_readOnly : ∃ files cls, atlas.run = .ok files ∧
    atlas.generator.classFile "Country" .create cls ∈ files ∧
      ∃ property ∈ cls.properties, property.name = "code" ∧ .readOnly ∈ property.options := by
  obtain ⟨files, run⟩ : ∃ files, atlas.run = .ok files := ⟨_, rfl⟩
  obtain ⟨cls, property, step, kept, name, readOnly⟩ : ∃ cls property,
      atlas.generator.classOf (atlas.document.models[0].resolve []) .create = .ok cls ∧
        property ∈ cls.properties ∧ property.name = "code" ∧ .readOnly ∈ property.options :=
    ⟨_, _, rfl, List.mem_cons_self, rfl, by decide⟩
  have isFile := Generator.classFile_mem run List.mem_cons_self step
  exact ⟨files, cls, run, isFile, property, kept, name, readOnly⟩

end Request

end SchemaDto
