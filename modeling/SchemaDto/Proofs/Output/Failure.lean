/-
# When a request fails

A request has no files exactly if one of its fields dangles: the field refers to
an enumeration that the document does not declare, and nothing keeps it out of
the classes (`run_eq_error_iff`).  The error names that enumeration.  Where
several fields dangle, the first model with such a field decides.  In it the
creating class is written before the reading class, so a field of the creating
class is reported before one that only the reading class holds, wherever the two
stand.

A field is followed through its type, the class that holds it, the files of its
model and the run; each step fails with the first failure of its parts.
-/
import SchemaDto.Proofs.Output.Run
import SchemaDto.Proofs.Schema.Catalogue
import SchemaDto.Request

namespace SchemaDto

/-! ## Failures of resolved models -/

/-- The enumeration that a field refers to, if the catalogue does not hold it. -/
def Catalogue.missing? (catalogue : Catalogue) (field : Field) : Option UnknownEnum :=
  match field.enumName with
  | none => none
  | some name => if name ∈ catalogue.names then none else some ⟨name⟩

namespace Catalogue

variable (catalogue : Catalogue)

theorem failure?_typing (field : Field) :
    failure? (catalogue.typing field) = catalogue.missing? field := by
  cases enumName : field.enumName with
  | none => simp only [typing, missing?, enumName, failure?_ok]
  | some name =>
      cases found : catalogue.find? name with
      | none =>
          have absent : name ∉ catalogue.names := find?_eq_none_iff.mp found
          simp only [typing, missing?, enumName, found, failure?_error, if_neg absent]
      | some enum =>
          have known : name ∈ catalogue.names := Decidable.of_not_not fun absent => by
            rw [find?_eq_none_iff.mpr absent] at found
            cases found
          simp only [typing, missing?, enumName, found, failure?_ok, if_pos known]

theorem failure?_classFile (name : String) (fields : List Field) (readOnly : Bool)
    (folder : Option String) : failure? (catalogue.classFile name fields readOnly folder) =
      fields.findSome? catalogue.missing? := by
  rw [classFile, failure?_map, typings, failure?_mapM]
  simp only [failure?_typing]

end Catalogue

namespace Generator

variable (generator : Generator)

/-- The creating class comes first. -/
theorem failure?_modelFiles (model : Model) : failure? (generator.modelFiles model) =
    (failure? (generator.classOf model .create)).or (failure? (generator.classOf model .read)) := by
  have steps : failure? (generator.modelFiles model) =
      (failure? (generator.classOf model .create)).or
        ((failure? (generator.classOf model .read)).or none) :=
    failure?_bind fun create => failure?_bind fun read => rfl
  rw [steps, Option.or_none]

theorem failure?_generate (models : List Model) : failure? (generator.generate models) =
    models.findSome? fun model => failure? (generator.modelFiles model) := by
  have classes : failure? (generator.generate models) =
      (failure? (models.mapM generator.modelFiles)).or none := failure?_bind fun classes => rfl
  rw [classes, Option.or_none, failure?_mapM]

end Generator

/-! ## Declared fields -/

/-- The creating class may hold the field, as far as its name and its part in
updates go. -/
def FieldDecl.IsSettable (field : FieldDecl) : Prop :=
  field.name ∉ managedNames ∧ field.isUpdatedAt ≠ some true

instance (field : FieldDecl) : Decidable field.IsSettable :=
  inferInstanceAs (Decidable (_ ∧ _))

theorem FieldDecl.isUpdatedAt_getD_iff {field : FieldDecl} :
    field.isUpdatedAt.getD false = false ↔ field.isUpdatedAt ≠ some true := by
  rcases field.isUpdatedAt with _ | _ | _
  · simp
  · simp
  · simp

namespace Request

variable (request : Request)

/-- The field of the model refers to an undeclared enumeration, and is neither a
relation nor left out. -/
structure Dangling (model : ModelDecl) (field : FieldDecl) : Prop where
  isEnum : field.kind = .enumeration
  noRelation : field.relationName = none
  notOmitted : field.name ∉ request.settings.omitted model.name
  undeclared : field.type ∉ request.document.enums.map (·.name)

theorem dangling_iff {model : ModelDecl} {field : FieldDecl} : request.Dangling model field ↔
    field.kind = .enumeration ∧ field.relationName = none ∧
      field.name ∉ request.settings.omitted model.name ∧
      field.type ∉ request.document.enums.map (·.name) :=
  ⟨fun ⟨a, b, c, d⟩ => ⟨a, b, c, d⟩, fun ⟨a, b, c, d⟩ => ⟨a, b, c, d⟩⟩

instance (model : ModelDecl) (field : FieldDecl) : Decidable (request.Dangling model field) :=
  decidable_of_iff _ request.dangling_iff.symm

/-- The field of a model that the error of a request is about: the first one that
dangles among those of the creating class, or else the first one that dangles. -/
def blamed? (model : ModelDecl) : Option FieldDecl :=
  (model.fields.find? fun field => request.Dangling model field ∧ field.IsSettable).or
    (model.fields.find? fun field => request.Dangling model field)

theorem blamed?_eq_none_iff {model : ModelDecl} :
    request.blamed? model = none ↔ ∀ field ∈ model.fields, ¬request.Dangling model field := by
  rw [blamed?, Option.or_eq_none_iff, List.find?_eq_none, List.find?_eq_none]
  constructor
  · rintro ⟨-, none⟩ field mem
    simpa using none field mem
  · intro none
    refine ⟨fun field mem => ?_, fun field mem => ?_⟩
    · simpa using fun dangling => absurd dangling (none field mem)
    · simpa using none field mem

/-! ## From declared fields to the run -/

theorem missing?_resolve (field : FieldDecl) :
    request.generator.catalogue.missing? (field.resolve request.document.enums) =
      if field.kind = .enumeration ∧ field.type ∉ request.document.enums.map (·.name) then
        some ⟨field.type⟩ else none := by
  have declared : field.type ∈ request.generator.catalogue.names ↔
      field.type ∈ request.document.enums.map (·.name) := Catalogue.mem_names_ofList
  by_cases isEnum : field.kind = .enumeration
  · by_cases known : field.type ∈ request.document.enums.map (·.name)
    · rw [if_neg fun h => h.2 known]
      simp only [Catalogue.missing?, FieldDecl.resolve, if_pos isEnum, if_pos (declared.mpr known)]
    · rw [if_pos ⟨isEnum, known⟩]
      simp only [Catalogue.missing?, FieldDecl.resolve, if_pos isEnum, if_neg (mt declared.mp known)]
  · rw [if_neg fun h => isEnum h.1]
    simp only [Catalogue.missing?, FieldDecl.resolve, if_neg isEnum]

theorem isReadable_resolve {enums : List Enumeration} {omitted : List String}
    {field : FieldDecl} : (field.resolve enums).isReadable omitted = true ↔
      field.relationName = none ∧ field.name ∉ omitted := by
  simp [Field.isReadable, FieldDecl.resolve, and_comm]

theorem isCreatable_resolve {enums : List Enumeration} {omitted : List String}
    {field : FieldDecl} : (field.resolve enums).isCreatable omitted = true ↔
      (field.resolve enums).isReadable omitted = true ∧ field.IsSettable := by
  rw [isReadable_resolve]
  simp only [Field.isCreatable, FieldDecl.resolve, FieldDecl.IsSettable, Bool.and_eq_true,
    Bool.not_eq_true', FieldDecl.isUpdatedAt_getD_iff, List.contains_eq_mem, decide_eq_false_iff_not,
    Option.isSome_eq_false_iff, Option.isNone_iff_eq_none]
  constructor
  · rintro ⟨⟨⟨name, kept⟩, update⟩, relation⟩
    exact ⟨⟨relation, kept⟩, name, update⟩
  · rintro ⟨⟨relation, kept⟩, name, update⟩
    exact ⟨⟨⟨name, kept⟩, update⟩, relation⟩

theorem failure?_create (model : ModelDecl) :
    failure? (request.generator.classOf (model.resolve request.document.enums) .create) =
      (model.fields.find? fun field => request.Dangling model field ∧ field.IsSettable).map
        fun field => ⟨field.type⟩ := by
  refine (Catalogue.failure?_classFile ..).trans
    (findSome?_filter_map request.missing?_resolve (fun field => ?_) _)
  rw [isCreatable_resolve, isReadable_resolve, dangling_iff]
  constructor
  · rintro ⟨⟨⟨relation, kept⟩, settable⟩, isEnum, undeclared⟩
    exact ⟨⟨isEnum, relation, kept, undeclared⟩, settable⟩
  · rintro ⟨⟨isEnum, relation, kept, undeclared⟩, settable⟩
    exact ⟨⟨⟨relation, kept⟩, settable⟩, isEnum, undeclared⟩

theorem failure?_read (model : ModelDecl) :
    failure? (request.generator.classOf (model.resolve request.document.enums) .read) =
      (model.fields.find? fun field => request.Dangling model field).map
        fun field => ⟨field.type⟩ := by
  refine (Catalogue.failure?_classFile ..).trans
    (findSome?_filter_map request.missing?_resolve (fun field => ?_) _)
  rw [isReadable_resolve, dangling_iff]
  constructor
  · rintro ⟨⟨relation, kept⟩, isEnum, undeclared⟩
    exact ⟨isEnum, relation, kept, undeclared⟩
  · rintro ⟨isEnum, relation, kept, undeclared⟩
    exact ⟨⟨relation, kept⟩, isEnum, undeclared⟩

theorem failure?_run : failure? request.run =
    request.document.models.findSome? fun model =>
      (request.blamed? model).map fun field => ⟨field.type⟩ := by
  rw [run, Generator.failure?_generate, Document.resolve, List.findSome?_map]
  refine congrArg (request.document.models.findSome? ·) (funext fun model => ?_)
  rw [blamed?, Option.map_or, ← failure?_create, ← failure?_read]
  exact Generator.failure?_modelFiles ..

/-! ## Failure of a request -/

theorem failure?_run_eq_none_iff : failure? request.run = none ↔
    ∀ model ∈ request.document.models, ∀ field ∈ model.fields,
      ¬request.Dangling model field := by
  rw [failure?_run, List.findSome?_eq_none_iff]
  simp only [Option.map_eq_none_iff, blamed?_eq_none_iff]

theorem exists_error_iff : (∃ error, request.run = .error error) ↔
    ∃ model ∈ request.document.models, ∃ field ∈ model.fields, request.Dangling model field := by
  have sound := request.failure?_run_eq_none_iff
  cases outcome : request.run with
  | error error =>
      have fails : ¬failure? request.run = none := by
        rw [outcome, failure?_error]
        exact Option.some_ne_none error
      have dangling : ∃ model ∈ request.document.models, ∃ field ∈ model.fields,
          request.Dangling model field := by simpa using mt sound.mpr fails
      exact ⟨fun _ => dangling, fun _ => ⟨error, rfl⟩⟩
  | ok files =>
      constructor
      · rintro ⟨error, eq⟩
        cases eq
      · rintro ⟨model, mem, field, inModel, dangling⟩
        have passes : failure? request.run = none := by rw [outcome, failure?_ok]
        exact absurd dangling (sound.mp passes model mem field inModel)

/-- A request fails exactly if a field dangles.  The error names the enumeration of
the field to blame in the first model with such a field. -/
theorem run_eq_error_iff :
    ((∃ error, request.run = .error error) ↔
      ∃ model ∈ request.document.models, ∃ field ∈ model.fields,
        request.Dangling model field) ∧
    ∀ error, request.run = .error error ↔
      ∃ before model after, request.document.models = before ++ model :: after ∧
        (∀ earlier ∈ before, ∀ field ∈ earlier.fields, ¬request.Dangling earlier field) ∧
        ∃ field, request.blamed? model = some field ∧ error = ⟨field.type⟩ := by
  refine ⟨request.exists_error_iff, fun error => ?_⟩
  rw [← failure?_eq_some_iff, failure?_run, List.findSome?_eq_some_iff]
  constructor
  · rintro ⟨before, model, after, split, failed, passed⟩
    obtain ⟨field, blamed, rfl⟩ := Option.map_eq_some_iff.mp failed
    refine ⟨before, model, after, split, fun earlier mem => ?_, field, blamed, rfl⟩
    exact request.blamed?_eq_none_iff.mp (Option.map_eq_none_iff.mp (passed earlier mem))
  · rintro ⟨before, model, after, split, passed, field, blamed, rfl⟩
    refine ⟨before, model, after, split, by rw [blamed]; rfl, fun earlier mem => ?_⟩
    rw [request.blamed?_eq_none_iff.mpr (passed earlier mem)]
    rfl

/-- Two models with undeclared enumerations.  That of the first one stands behind a
relation; of the second one, the creating class holds the later field only. -/
def stray : Request where
  document :=
    { models :=
        [{ name := "Account"
           fields :=
             [{ name := "status", kind := .enumeration, type := "Status" },
              { name := "owner", kind := .enumeration, type := "Owner"
                relationName := some "AccountOwner" }] },
         { name := "Order"
           fields :=
             [{ name := "updatedAt", kind := .enumeration, type := "Clock" },
              { name := "phase", kind := .enumeration, type := "Phase" }] }]
      enums := [⟨"Status", ["OPEN", "SHUT"]⟩] }
  options := .ofList [("omitFields", .repeated [])]

theorem run_stray : stray.run = .error ⟨"Phase"⟩ := by
  have passed : ∀ field ∈ stray.document.models[0].fields,
      ¬stray.Dangling stray.document.models[0] field := by decide
  have blamed : stray.blamed? stray.document.models[1] =
      some { name := "phase", kind := .enumeration, type := "Phase" } := by decide
  refine (stray.run_eq_error_iff.2 _).mpr
    ⟨[stray.document.models[0]], _, [], rfl, fun earlier mem => ?_, _, blamed, rfl⟩
  rw [List.mem_singleton.mp mem]
  exact passed

end Request

end SchemaDto
