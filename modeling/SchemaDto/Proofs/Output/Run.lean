/-
# What a run puts out

The files of a successful run are the file of enumerations, the three class
files of each model, and the barrels (`mem_files`).  A class file stands in the
folder of its model under the name of its purpose and declares the class of that
purpose.
-/
import SchemaDto.Output
import SchemaDto.Proofs.Emit.Names
import SchemaDto.Proofs.Fallible

namespace SchemaDto

/-- Where a file goes: its folder and its name there. -/
def File.key (file : File) : Option String × String := (file.folder, file.name)

namespace Generator

variable {generator : Generator} {model : Model} {models : List Model} {files : List File}

/-! ## The folder of a model -/

theorem folder_flat (layout : generator.settings.layout = .flat) (model : String) :
    generator.folder model = none := by
  rw [folder, layout]

theorem folder_domain (layout : generator.settings.layout = .domain) (model : String) :
    generator.folder model = (generator.placement.bucket? model).map Bucket.path := by
  rw [folder, layout]

/-! ## The files of a model -/

/-- The class of a model for a purpose. -/
def classOf (generator : Generator) (model : Model) : Purpose → Except UnknownEnum ClassFile
  | .create => generator.catalogue.createClass model (generator.settings.omitted model.name)
      (generator.folder model.name)
  | .update => .ok (updateClass model.name)
  | .read => generator.catalogue.readClass model (generator.settings.omitted model.name)
      (generator.folder model.name)

theorem name_of_classFile {catalogue : Catalogue} {name : String} {fields : List Field}
    {readOnly : Bool} {folder : Option String} {cls : ClassFile}
    (h : catalogue.classFile name fields readOnly folder = .ok cls) : cls.name = name := by
  obtain ⟨typings, -, rfl⟩ := map_eq_ok_iff.mp h
  rfl

theorem name_of_classOf {purpose : Purpose} {cls : ClassFile}
    (h : generator.classOf model purpose = .ok cls) :
    cls.name = purpose.className model.name := by
  cases purpose with
  | create => exact name_of_classFile h
  | update => cases h; rfl
  | read => exact name_of_classFile h

theorem modelFiles_eq_ok_iff : generator.modelFiles model = .ok files ↔
    ∃ create read, generator.classOf model .create = .ok create ∧
      generator.classOf model .read = .ok read ∧
      files = [generator.classFile model.name .create create,
        generator.classFile model.name .update (updateClass model.name),
        generator.classFile model.name .read read] := by
  simp only [modelFiles, bind_eq_ok_iff]
  constructor
  · rintro ⟨create, hc, read, hr, eq⟩
    cases eq
    exact ⟨create, read, hc, hr, rfl⟩
  · rintro ⟨create, read, hc, hr, rfl⟩
    exact ⟨create, hc, read, hr, rfl⟩

theorem mem_modelFiles (h : generator.modelFiles model = .ok files) {file : File} :
    file ∈ files ↔ ∃ purpose cls, generator.classOf model purpose = .ok cls ∧
      file = generator.classFile model.name purpose cls := by
  obtain ⟨create, read, hc, hr, rfl⟩ := modelFiles_eq_ok_iff.mp h
  simp only [List.mem_cons, List.not_mem_nil, or_false]
  constructor
  · rintro (rfl | rfl | rfl)
    · exact ⟨.create, create, hc, rfl⟩
    · exact ⟨.update, _, rfl, rfl⟩
    · exact ⟨.read, read, hr, rfl⟩
  · rintro ⟨purpose, cls, h, rfl⟩
    cases purpose with
    | create => cases hc.symm.trans h; exact .inl rfl
    | update => cases h; exact .inr (.inl rfl)
    | read => cases hr.symm.trans h; exact .inr (.inr rfl)

theorem keys_of_modelFiles (h : generator.modelFiles model = .ok files) :
    files.map File.key = Purpose.all.map fun purpose =>
      (generator.folder model.name, purpose.fileName model.name) := by
  obtain ⟨create, read, -, -, rfl⟩ := modelFiles_eq_ok_iff.mp h
  rfl

/-! ## The files of a run -/

/-- The barrels of a run, where barrels are wanted. -/
def barrelFiles (generator : Generator) (models : List Model) : List File :=
  if generator.settings.emitBarrel then generator.barrels (models.map (·.name)) else []

theorem mem_barrelFiles {file : File} : file ∈ generator.barrelFiles models ↔
    generator.settings.emitBarrel = true ∧ file ∈ generator.barrels (models.map (·.name)) := by
  rw [barrelFiles]
  split
  · next emit => simp [emit]
  · next silent => simp [silent]

theorem generate_eq_ok_iff : generator.generate models = .ok files ↔
    ∃ classes, models.mapM generator.modelFiles = .ok classes ∧
      files = generator.enumFiles ++ classes.flatten ++ generator.barrelFiles models := by
  simp only [generate, bind_eq_ok_iff]
  constructor
  · rintro ⟨classes, h, eq⟩
    cases eq
    exact ⟨classes, h, rfl⟩
  · rintro ⟨classes, h, rfl⟩
    exact ⟨classes, h, rfl⟩

/-- The parts of the output. -/
theorem mem_files (run : generator.generate models = .ok files) {file : File} :
    file ∈ files ↔ file ∈ generator.enumFiles ∨
      (∃ model ∈ models, ∃ purpose cls, generator.classOf model purpose = .ok cls ∧
        file = generator.classFile model.name purpose cls) ∨
      file ∈ generator.barrelFiles models := by
  obtain ⟨classes, h, rfl⟩ := generate_eq_ok_iff.mp run
  rw [List.mem_append, List.mem_append, or_assoc, List.mem_flatten]
  refine or_congr_right (or_congr_left ?_)
  constructor
  · rintro ⟨ofModel, mem, inModel⟩
    obtain ⟨model, isModel, h⟩ := (mem_of_mapM_eq_ok h).mp mem
    exact ⟨model, isModel, (mem_modelFiles h).mp inModel⟩
  · rintro ⟨model, isModel, purpose, cls, hcls, rfl⟩
    obtain ⟨ofModel, inClasses, step⟩ := exists_of_mapM_eq_ok h isModel
    exact ⟨ofModel, inClasses, (mem_modelFiles step).mpr ⟨purpose, cls, hcls, rfl⟩⟩

theorem classFile_mem (run : generator.generate models = .ok files) (mem : model ∈ models)
    {purpose : Purpose} {cls : ClassFile} (h : generator.classOf model purpose = .ok cls) :
    generator.classFile model.name purpose cls ∈ files :=
  (mem_files run).mpr (.inr (.inl ⟨model, mem, purpose, cls, h, rfl⟩))

theorem barrel_mem (run : generator.generate models = .ok files)
    (emit : generator.settings.emitBarrel = true) {barrel : File}
    (mem : barrel ∈ generator.barrels (models.map (·.name))) : barrel ∈ files :=
  (mem_files run).mpr (.inr (.inr (mem_barrelFiles.mpr ⟨emit, mem⟩)))

/-- A run that succeeds has a class for every model and purpose. -/
theorem exists_classOf (run : generator.generate models = .ok files) (mem : model ∈ models)
    (purpose : Purpose) : ∃ cls, generator.classOf model purpose = .ok cls := by
  obtain ⟨classes, h, -⟩ := generate_eq_ok_iff.mp run
  obtain ⟨ofModel, -, step⟩ := exists_of_mapM_eq_ok h mem
  obtain ⟨create, read, hc, hr, -⟩ := modelFiles_eq_ok_iff.mp step
  cases purpose with
  | create => exact ⟨create, hc⟩
  | update => exact ⟨_, rfl⟩
  | read => exact ⟨read, hr⟩

theorem mem_enumFiles {file : File} : file ∈ generator.enumFiles ↔
    generator.hasEnums = true ∧ file = ⟨none, enumsFileName, .enums generator.catalogue⟩ := by
  rw [enumFiles]
  split
  · next h => simp [h]
  · next h => simp [h]

/-! ## The parts of an output -/

theorem filter_of_forall {p : File → Bool} {passes : Bool} (h : ∀ file ∈ files, p file = passes) :
    files.filter p = if passes then files else [] := by
  cases passes with
  | true => exact List.filter_eq_self.mpr h
  | false => exact List.filter_eq_nil_iff.mpr fun file mem => by rw [h file mem]; simp

/-- A test that treats all class files alike, and all barrels, picks whole parts of the
output. -/
theorem filter_parts {classes : List (List File)} (p : File → Bool)
    (inEnums inClasses inBarrels : Bool) (steps : models.mapM generator.modelFiles = .ok classes)
    (enums : p ⟨none, enumsFileName, .enums generator.catalogue⟩ = inEnums)
    (ofClass : ∀ name purpose cls, p (generator.classFile name purpose cls) = inClasses)
    (barrels : ∀ file ∈ generator.barrelFiles models, p file = inBarrels) :
    (generator.enumFiles ++ classes.flatten ++ generator.barrelFiles models).filter p =
      (if inEnums then generator.enumFiles else []) ++
        (if inClasses then classes.flatten else []) ++
        if inBarrels then generator.barrelFiles models else [] := by
  have ofEnums : ∀ file ∈ generator.enumFiles, p file = inEnums := by
    intro file mem
    rw [(mem_enumFiles.mp mem).2, enums]
  have ofClasses : ∀ file ∈ classes.flatten, p file = inClasses := by
    intro file mem
    obtain ⟨ofModel, inClasses, inModel⟩ := List.mem_flatten.mp mem
    obtain ⟨model, -, step⟩ := (mem_of_mapM_eq_ok steps).mp inClasses
    obtain ⟨purpose, cls, -, rfl⟩ := (mem_modelFiles step).mp inModel
    exact ofClass model.name purpose cls
  rw [List.filter_append, List.filter_append, filter_of_forall ofEnums,
    filter_of_forall ofClasses, filter_of_forall barrels]

end Generator

end SchemaDto
