/-
# Omitting more fields

Settings that omit more fields of the models take properties away and change nothing else
(`generate_omitting`).  A run that succeeds keeps succeeding and writes the same files; the
properties that are left in a class look as before and stand in the same order, and no import
is new.  What more there is to omit may be anything: fields that no model has, or fields that
a class leaves out on other grounds.
-/
import SchemaDto.Proofs.Emit.Closure
import SchemaDto.Proofs.Output.Layouts

namespace SchemaDto

/-! ## The fields that are left -/

section Fields

variable {fewer more : List String} (sub : fewer ⊆ more)

include sub

theorem not_contains_of_subset (name : String) :
    (!more.contains name) = (decide (name ∉ more) && !fewer.contains name) := by
  by_cases omitted : name ∈ more
  · simp [omitted]
  · have kept : name ∉ fewer := mt (@sub name) omitted
    simp [omitted, kept]

theorem Field.isReadable_of_subset (field : Field) :
    field.isReadable more = (decide (field.name ∉ more) && field.isReadable fewer) := by
  rw [isReadable, isReadable, not_contains_of_subset sub, Bool.and_assoc]

theorem Field.isCreatable_of_subset (field : Field) :
    field.isCreatable more = (decide (field.name ∉ more) && field.isCreatable fewer) := by
  rw [isCreatable, isCreatable, not_contains_of_subset sub]
  simp only [Bool.and_assoc, Bool.and_left_comm]

theorem Model.readFields_of_subset (model : Model) : model.readFields more =
    (model.readFields fewer).filter fun field => field.name ∉ more := by
  rw [readFields, readFields, List.filter_filter]
  exact List.filter_congr fun field _ => field.isReadable_of_subset sub

theorem Model.createFields_of_subset (model : Model) : model.createFields more =
    (model.createFields fewer).filter fun field => field.name ∉ more := by
  rw [createFields, createFields, List.filter_filter]
  exact List.filter_congr fun field _ => field.isCreatable_of_subset sub

end Fields

/-! ## The class of fewer fields -/

/-- The class `cls'` is what is left of the class `cls` without the properties of these names. -/
structure ClassFile.Trimmed (omitted : List String) (cls cls' : ClassFile) : Prop where
  properties : cls'.properties = cls.properties.filter fun property => property.name ∉ omitted
  /-- From no module more names are imported. -/
  imports : ∀ source, (cls'.importsFrom source).flatten ⊆ (cls.importsFrom source).flatten

theorem ClassFile.Trimmed.names {omitted : List String} {cls cls' : ClassFile}
    (h : cls.Trimmed omitted cls') :
    cls'.properties.map (·.name) = (cls.properties.map (·.name)).filter (· ∉ omitted) := by
  rw [h.properties, List.filter_map]
  rfl

namespace Catalogue

variable {catalogue : Catalogue} {name : String} {fields fields' : List Field}
  {readOnly : Bool} {folder : Option String} {cls cls' : ClassFile}

/-- A class of some of the fields imports some of the names. -/
theorem importsFrom_subset (sub : fields' ⊆ fields)
    (h : catalogue.classFile name fields readOnly folder = .ok cls)
    (h' : catalogue.classFile name fields' readOnly folder = .ok cls') (source : String) :
    (cls'.importsFrom source).flatten ⊆ (cls.importsFrom source).flatten := by
  obtain ⟨typings, typed, rfl⟩ := map_eq_ok_iff.mp h
  obtain ⟨typings', typed', rfl⟩ := map_eq_ok_iff.mp h'
  intro imported mem
  rw [mem_flatten_importsFrom rfl] at mem ⊢
  rcases mem with decorator | ⟨isSource, mem⟩ | ⟨isSource, mem⟩
  · exact .inl decorator
  · refine .inr (.inl ⟨isSource, (mem_validatorNames typed).mpr ?_⟩)
    rcases (mem_validatorNames typed').mp mem with mem | ⟨isObject, field, isField, isJson⟩
    · exact .inl (List.map_subset _ sub mem)
    · exact .inr ⟨isObject, field, sub isField, isJson⟩
  · obtain ⟨field, isField, isEnum⟩ := (mem_importedEnums typed').mp mem
    exact .inr (.inr ⟨isSource, (mem_importedEnums typed).mpr ⟨field, sub isField, isEnum⟩⟩)

/-- With a class of some fields there is the class of those without some names, trimmed. -/
theorem follows_classFile (catalogue : Catalogue) (name : String) (fields : List Field)
    (readOnly : Bool) (folder : Option String) (omitted : List String) :
    Follows (ClassFile.Trimmed omitted) (catalogue.classFile name fields readOnly folder)
      (catalogue.classFile name (fields.filter fun field => field.name ∉ omitted) readOnly
        folder) := by
  intro cls h
  obtain ⟨imports, properties, imported, made, rfl⟩ := classFile_eq_ok_iff.mp h
  obtain ⟨typings, typed, -⟩ := map_eq_ok_iff.mp imported
  have sub : (fields.filter fun field => field.name ∉ omitted) ⊆ fields :=
    List.filter_sublist.subset
  obtain ⟨typings', typed'⟩ : ∃ typings',
      catalogue.typings (fields.filter fun field => field.name ∉ omitted) = .ok typings' := by
    rw [Catalogue.typings, exists_mapM_eq_ok_iff]
    intro field mem
    exact exists_mapM_eq_ok_iff.mp ⟨typings, typed⟩ field (sub mem)
  have left : (fields.filter fun field => field.name ∉ omitted).mapM
      (catalogue.property · readOnly) =
        .ok (properties.filter fun property => property.name ∉ omitted) := by
    refine mapM_filter_of_mapM_eq_ok made ?_
    intro field property step
    rw [name_of_property step]
  have written : catalogue.classFile name (fields.filter fun field => field.name ∉ omitted)
      readOnly folder = .ok _ := classFile_eq_ok_iff.mpr
    ⟨_, _, map_eq_ok_iff.mpr ⟨typings', typed', rfl⟩, left, rfl⟩
  exact ⟨_, written, rfl, importsFrom_subset sub h written⟩

end Catalogue

namespace Generator

/-! ## The run that omits more -/

/-- The generator with these fields omitted. -/
def omitting (generator : Generator) (omitFields : Option (Dict (List String))) : Generator :=
  ⟨{ generator.settings with omitFields }, generator.catalogue⟩

/-- The class of a model for a purpose, and what is left of it where other fields are omitted. -/
structure Thinned (generator : Generator) (omitFields : Option (Dict (List String)))
    (model : Model) (purpose : Purpose) (cls cls' : ClassFile) : Prop where
  before : generator.classOf model purpose = .ok cls
  after : (generator.omitting omitFields).classOf model purpose = .ok cls'
  /-- The properties are those of the listed fields, one by one. -/
  listed : cls.properties.map (·.name) = (generator.listedFields model purpose).map (·.name)
  trimmed : cls.Trimmed ((generator.omitting omitFields).settings.omitted model.name) cls'
  /-- The class for updating is the same. -/
  update : purpose = .update → cls' = cls

/-- A file of a run, and the file in its place where other fields are omitted. -/
inductive Pruned (generator : Generator) (omitFields : Option (Dict (List String)))
    (models : List Model) : File → File → Prop
  | enums : Pruned generator omitFields models
      ⟨none, enumsFileName, .enums generator.catalogue⟩
      ⟨none, enumsFileName, .enums generator.catalogue⟩
  | classes {model : Model} {purpose : Purpose} {cls cls' : ClassFile} : model ∈ models →
      Thinned generator omitFields model purpose cls cls' →
      Pruned generator omitFields models (generator.classFile model.name purpose cls)
        (generator.classFile model.name purpose cls')
  | barrel {file : File} : file ∈ generator.barrelFiles models →
      Pruned generator omitFields models file file

variable {generator : Generator} {omitFields : Option (Dict (List String))}

theorem Pruned.key_eq {models : List Model} {file file' : File}
    (h : Pruned generator omitFields models file file') : file'.key = file.key := by
  cases h with
  | enums => rfl
  | classes _ _ => rfl
  | barrel _ => rfl

/-- Omitted fields do not show in a class for updating. -/
theorem thinned_update (model : Model) : Thinned generator omitFields model .update
    (updateClass model.name) (updateClass model.name) where
  before := rfl
  after := rfl
  listed := rfl
  trimmed := ⟨rfl, fun _ => List.Subset.refl _⟩
  update _ := rfl

section Model

variable {model : Model} (more : generator.settings.omitted model.name ⊆
  (generator.omitting omitFields).settings.omitted model.name)

include more

theorem listedFields_omitting (purpose : Purpose) :
    (generator.omitting omitFields).listedFields model purpose =
      (generator.listedFields model purpose).filter fun field =>
        field.name ∉ (generator.omitting omitFields).settings.omitted model.name := by
  cases purpose with
  | create => exact model.createFields_of_subset more
  | update => rfl
  | read => exact model.readFields_of_subset more

theorem follows_classOf (purpose : Purpose) : Follows (Thinned generator omitFields model purpose)
    (generator.classOf model purpose) ((generator.omitting omitFields).classOf model purpose) := by
  -- a creating or reading class is the class of its listed fields
  have listing (name : String) (readOnly : Bool) := generator.catalogue.follows_classFile name
    (generator.listedFields model purpose) readOnly (generator.folder model.name)
    ((generator.omitting omitFields).settings.omitted model.name)
  rw [← listedFields_omitting more purpose] at listing
  cases purpose with
  | create =>
      intro cls h
      obtain ⟨cls', h', trimmed⟩ := listing _ false cls h
      exact ⟨cls', h', h, h', Catalogue.names_of_classFile h, trimmed, nofun⟩
  | update => exact .ok (thinned_update model)
  | read =>
      intro cls h
      obtain ⟨cls', h', trimmed⟩ := listing _ true cls h
      exact ⟨cls', h', h, h', Catalogue.names_of_classFile h, trimmed, nofun⟩

end Model

variable {models : List Model} {files : List File}

theorem follows_modelFiles {model : Model} (mem : model ∈ models)
    (more : generator.settings.omitted model.name ⊆
      (generator.omitting omitFields).settings.omitted model.name) :
    Follows (List.Forall₂ (Pruned generator omitFields models)) (generator.modelFiles model)
      ((generator.omitting omitFields).modelFiles model) := by
  refine (follows_classOf more .create).bind ?_
  intro create create' created
  refine (follows_classOf more .read).bind ?_
  intro read read' isRead
  exact .ok (.cons (.classes mem created) (.cons (.classes mem (thinned_update model))
    (.cons (.classes mem isRead) .nil)))

/-- Settings that omit more fields: the run succeeds as well.  It writes the same files with the
same enumerations and barrels, and in each class the properties of the omitted fields are gone
and the others are left. -/
theorem generate_omitting (more : ∀ model ∈ models, generator.settings.omitted model.name ⊆
      (generator.omitting omitFields).settings.omitted model.name)
    (run : generator.generate models = .ok files) :
    ∃ files', (generator.omitting omitFields).generate models = .ok files' ∧
      files'.map File.key = files.map File.key ∧
      List.Forall₂ (Pruned generator omitFields models) files files' ∧
      ∀ model ∈ models, ∀ purpose, ∃ cls cls',
        Thinned generator omitFields model purpose cls cls' := by
  have enums : List.Forall₂ (Pruned generator omitFields models) generator.enumFiles
      (generator.omitting omitFields).enumFiles := by
    apply List.forall₂_same.mpr
    intro file mem
    rw [(mem_enumFiles.mp mem).2]
    exact .enums
  have barrels : List.Forall₂ (Pruned generator omitFields models)
      (generator.barrelFiles models) ((generator.omitting omitFields).barrelFiles models) :=
    List.forall₂_same.mpr fun file mem => .barrel mem
  have classes := Follows.mapM fun model mem => follows_modelFiles mem (more model mem)
  obtain ⟨files', run', pruned⟩ := classes.bind (fun _ _ related => Follows.ok
    (List.rel_append (List.rel_append enums (List.rel_flatten related)) barrels)) files run
  refine ⟨files', run', ?_, pruned, ?_⟩
  · have keys : List.Forall₂ (· = ·) (files'.map File.key) (files.map File.key) := by
      rw [List.forall₂_map_left_iff, List.forall₂_map_right_iff]
      exact pruned.flip.imp fun _ _ related => related.key_eq
    rwa [List.forall₂_eq_eq_eq] at keys
  · intro model mem purpose
    obtain ⟨cls, h⟩ := exists_classOf run mem purpose
    obtain ⟨cls', -, thinned⟩ := follows_classOf (more model mem) purpose cls h
    exact ⟨cls, cls', thinned⟩

/-- A generator that omits a field, with its model in a folder and with an enumeration. -/
def archive : Generator :=
  .ofEnums
    { layout := .domain
      domainMapping := some (.ofList [("Report", "records/report")])
      omitFields := some (.ofList [("Report", ["secret"])]) }
    [⟨"Stage", ["DRAFT", "FINAL"]⟩]

/-- A model with an identity, an enumeration and a relation. -/
def report : Model where
  name := "Report"
  fields :=
    [{ name := "id", type := "String", isId := true },
     { name := "stage", type := "Stage", enumName := some "Stage" },
     { name := "secret", type := "String" },
     { name := "author", type := "Person", isRelation := true },
     { name := "title", type := "String" }]

/-- To the field that is omitted already come another one, once more than needed, the identity,
a relation, and names without a field. -/
def archiveOmissions : Dict (List String) :=
  .ofList [("Report", ["stage", "secret", "shelf", "stage", "id", "author"]), ("Shelf", ["row"])]

theorem archive_pruned : ∃ files files',
    archive.generate [report] = .ok files ∧
    (archive.omitting (some archiveOmissions)).generate [report] = .ok files' ∧
    files'.map File.key = files.map File.key ∧
    List.Forall₂ (Pruned archive (some archiveOmissions) [report]) files files' ∧
    ∃ cls cls', Thinned archive (some archiveOmissions) report .read cls cls' ∧
      cls.properties.map (·.name) = ["id", "stage", "title"] ∧
      cls'.properties.map (·.name) = ["title"] := by
  obtain ⟨files, run⟩ : ∃ files, archive.generate [report] = .ok files := ⟨_, rfl⟩
  have more : ∀ model ∈ [report], archive.settings.omitted model.name ⊆
      (archive.omitting (some archiveOmissions)).settings.omitted model.name := by decide
  obtain ⟨files', run', keys, pruned, thinned⟩ := generate_omitting more run
  obtain ⟨cls, cls', read⟩ := thinned report List.mem_cons_self .read
  refine ⟨files, files', run, run', keys, pruned, cls, cls', read, read.listed, ?_⟩
  rw [read.trimmed.names, read.listed]
  rfl

end Generator

end SchemaDto
