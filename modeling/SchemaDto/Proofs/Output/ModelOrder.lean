/-
# The order of the models

In the domain layout the barrels are built from the set of the models' names: which
models a folder holds, and in which order, is read off the domain mapping.  So listing
the models in another order moves the class files along with their models, and leaves
everything else as it is, but for the classes without a bucket, which the root barrel
exports in the order of the list (`generate_perm`).
-/
import SchemaDto.Proofs.Output.Barrels

namespace SchemaDto

/-! ## What the groups depend on -/

namespace Placement

variable {names names' : List String}

/-- Which models were generated counts, and neither in which order nor how often. -/
theorem groups_congr (placement : Placement)
    (same : ∀ model, model ∈ names ↔ model ∈ names') :
    placement.groups names = placement.groups names' := by
  have contains : ∀ model, names.contains model = names'.contains model := by
    intro model
    rw [Bool.eq_iff_iff, List.contains_iff_mem, List.contains_iff_mem]
    exact same model
  have subfolders : placement.subfolders names = placement.subfolders names' := by
    funext domain
    simp only [Placement.subfolders, contains]
  rw [groups, groups, subfolders]

end Placement

/-! ## Outputs that differ in order -/

/-- The outputs hold the same files, but for the root barrels, and these hold the same
exports.  Of the order, that of the class files may differ, and that of the exports of
classes in the root barrel. -/
structure Reordered (files files' : List File) : Prop where
  enums : files.filter (·.name == enumsFileName) = files'.filter (·.name == enumsFileName)
  classes : (files.filter File.holdsClass).Perm (files'.filter File.holdsClass)
  /-- The barrels of the domains and their subfolders. -/
  folders : (barrelsOf files).filter (·.folder.isSome) = (barrelsOf files').filter (·.folder.isSome)
  /-- There is one root barrel on either side. -/
  root : ∃ root root', (barrelsOf files).filter (·.folder.isNone) = [root] ∧
    (barrelsOf files').filter (·.folder.isNone) = [root'] ∧
    root.exports.Perm root'.exports ∧
    root.exports.filter (fun statement => !statement.isNamed) =
      root'.exports.filter fun statement => !statement.isNamed

namespace Generator

variable {generator : Generator} {models models' : List Model} {files files' : List File}

/-! ## The parts of an output -/

theorem filter_holdsClass_eq {classes : List (List File)}
    (steps : models.mapM generator.modelFiles = .ok classes) :
    (generator.enumFiles ++ classes.flatten ++ generator.barrelFiles models).filter
      File.holdsClass = classes.flatten := by
  rw [filter_parts _ false true false steps rfl (fun _ _ _ => rfl) fun file mem =>
    holdsClass_of_mem_barrelFiles mem]
  simp

/-- Only the file of enumerations has its name. -/
theorem filter_enumsFileName (run : generator.generate models = .ok files) :
    files.filter (·.name == enumsFileName) = generator.enumFiles := by
  obtain ⟨classes, steps, rfl⟩ := generate_eq_ok_iff.mp run
  have ofClass : ∀ name purpose cls,
      ((generator.classFile name purpose cls).name == enumsFileName) = false :=
    fun name purpose cls => beq_eq_false_iff_ne.mpr (purpose.fileName_ne_enums name)
  have ofBarrel : ∀ file ∈ generator.barrelFiles models, (file.name == enumsFileName) = false := by
    intro file mem
    rw [name_of_mem_barrels (mem_barrelFiles.mp mem).2]
    decide
  rw [filter_parts (·.name == enumsFileName) true false false steps (beq_self_eq_true _) ofClass
    ofBarrel]
  simp

/-- The barrels below the root are those of the groups. -/
theorem filter_isSome_barrels (layout : generator.settings.layout = .domain)
    (names : List String) :
    (generator.barrels names).filter (·.folder.isSome) =
      (generator.placement.groups names).flatMap groupBarrels := by
  have below : ((generator.placement.groups names).flatMap groupBarrels).filter
      (·.folder.isSome) = (generator.placement.groups names).flatMap groupBarrels := by
    refine List.filter_eq_self.mpr fun file mem => ?_
    obtain ⟨group, -, mem⟩ := List.mem_flatMap.mp mem
    rcases mem_groupBarrels.mp mem with rfl | ⟨inner, -, rfl⟩
    · rfl
    · rfl
  rw [barrels_domain layout, List.filter_append, below]
  exact List.append_nil _

theorem filter_isNone_barrels (layout : generator.settings.layout = .domain)
    (names : List String) :
    (generator.barrels names).filter (·.folder.isNone) = [generator.domainRoot names] := by
  have below : ((generator.placement.groups names).flatMap groupBarrels).filter
      (·.folder.isNone) = [] := by
    refine List.filter_eq_nil_iff.mpr fun file mem => ?_
    obtain ⟨group, -, mem⟩ := List.mem_flatMap.mp mem
    rcases mem_groupBarrels.mp mem with rfl | ⟨inner, -, rfl⟩
    · exact Bool.false_ne_true
    · exact Bool.false_ne_true
  rw [barrels_domain layout, List.filter_append, below]
  rfl

/-! ## The root barrel -/

/-- The models without a bucket are those of the list, each once. -/
theorem unbucketed_perm {names names' : List String}
    (same : ∀ model, model ∈ names ↔ model ∈ names') :
    (generator.unbucketed names).Perm (generator.unbucketed names') := by
  refine (List.perm_ext_iff_of_nodup (nodup_eraseDups _) (nodup_eraseDups _)).mpr fun model => ?_
  rw [← unbucketed, ← unbucketed, mem_unbucketed, mem_unbucketed, same]

theorem exports_domainRoot (names : List String) : (generator.domainRoot names).exports =
    rootBarrel (generator.placement.groups names) (generator.unbucketed names)
      generator.hasEnums := rfl

theorem exports_domainRoot_perm {names names' : List String}
    (same : ∀ model, model ∈ names ↔ model ∈ names') :
    (generator.domainRoot names).exports.Perm (generator.domainRoot names').exports := by
  rw [exports_domainRoot, exports_domainRoot, generator.placement.groups_congr same]
  exact (((unbucketed_perm same).flatMap_right Export.ofModel).append_left _).append_right _

/-- The exports of whole folders and of the file of enumerations do not depend on the
models without a bucket. -/
theorem filter_star_domainRoot (names : List String) :
    (generator.domainRoot names).exports.filter (fun statement => !statement.isNamed) =
      (generator.placement.groups names).map (fun group => .star group.name) ++
        Export.ofEnums generator.hasEnums := by
  have folders : ((generator.placement.groups names).map fun group =>
      Export.star group.name).filter (fun statement => !statement.isNamed) =
        (generator.placement.groups names).map fun group => .star group.name := by
    refine List.filter_eq_self.mpr fun statement mem => ?_
    obtain ⟨group, -, rfl⟩ := List.mem_map.mp mem
    rfl
  have noClasses : ((generator.unbucketed names).flatMap Export.ofModel).filter
      (fun statement => !statement.isNamed) = [] := by
    refine List.filter_eq_nil_iff.mpr fun statement mem => ?_
    obtain ⟨className, module, rfl⟩ := Export.eq_named_of_mem_flatMap_ofModel mem
    exact Bool.false_ne_true
  have closing : (Export.ofEnums generator.hasEnums).filter (fun statement => !statement.isNamed) =
      Export.ofEnums generator.hasEnums := by
    cases generator.hasEnums <;> rfl
  rw [exports_domainRoot, rootBarrel, List.filter_append, List.filter_append, folders, noClasses,
    closing, List.append_nil]

/-! ## Two runs -/

/-- A run succeeds exactly if every model has its files. -/
theorem exists_run_iff : (∃ files, generator.generate models = .ok files) ↔
    ∀ model ∈ models, ∃ files, generator.modelFiles model = .ok files := by
  rw [← exists_mapM_eq_ok_iff]
  constructor
  · rintro ⟨files, run⟩
    obtain ⟨classes, steps, -⟩ := generate_eq_ok_iff.mp run
    exact ⟨classes, steps⟩
  · rintro ⟨classes, steps⟩
    exact ⟨_, generate_eq_ok_iff.mpr ⟨classes, steps, rfl⟩⟩

/-- Runs over the same models in another order give the same output, up to order. -/
theorem reordered_of_perm (layout : generator.settings.layout = .domain)
    (emit : generator.settings.emitBarrel = true) (perm : models.Perm models')
    (run : generator.generate models = .ok files)
    (run' : generator.generate models' = .ok files') : Reordered files files' := by
  have same : ∀ model, model ∈ models.map (·.name) ↔ model ∈ models'.map (·.name) :=
    fun model => (perm.map (·.name)).mem_iff
  have groups := generator.placement.groups_congr same
  have barrels := barrelsOf_generate run emit
  have barrels' := barrelsOf_generate run' emit
  refine ⟨?_, ?_, ?_, ?_⟩
  · rw [filter_enumsFileName run, filter_enumsFileName run']
  · obtain ⟨classes, steps, rfl⟩ := generate_eq_ok_iff.mp run
    obtain ⟨classes', steps', rfl⟩ := generate_eq_ok_iff.mp run'
    rw [filter_holdsClass_eq steps, filter_holdsClass_eq steps']
    exact (perm_of_mapM_eq_ok perm steps steps').flatten
  · rw [barrels, barrels', filter_isSome_barrels layout, filter_isSome_barrels layout, groups]
  · refine ⟨generator.domainRoot (models.map (·.name)), generator.domainRoot (models'.map (·.name)),
      ?_, ?_, exports_domainRoot_perm same, ?_⟩
    · rw [barrels, filter_isNone_barrels layout]
    · rw [barrels', filter_isNone_barrels layout]
    · rw [filter_star_domainRoot, filter_star_domainRoot, groups]

/-- In the domain layout the order of the models has an influence on the order of the
class files and of the classes that the root barrel exports, and on nothing else. -/
theorem generate_perm (layout : generator.settings.layout = .domain)
    (emit : generator.settings.emitBarrel = true) (perm : models.Perm models') :
    ((∃ files, generator.generate models = .ok files) ↔
      ∃ files', generator.generate models' = .ok files') ∧
    ∀ files files', generator.generate models = .ok files →
      generator.generate models' = .ok files' → Reordered files files' := by
  refine ⟨?_, fun files files' run run' => reordered_of_perm layout emit perm run run'⟩
  rw [exists_run_iff, exists_run_iff]
  exact forall_congr' fun model => by rw [perm.mem_iff]

/-- The models of the shop, listed backwards. -/
theorem shop_reversed : ∃ files files', shop.generate shopModels = .ok files ∧
    shop.generate shopModels.reverse = .ok files' ∧ files ≠ files' ∧ Reordered files files' := by
  obtain ⟨files, run⟩ : ∃ files, shop.generate shopModels = .ok files := ⟨_, rfl⟩
  have perm : shopModels.Perm shopModels.reverse := (List.reverse_perm shopModels).symm
  obtain ⟨succeeds, same⟩ := @generate_perm shop _ _ rfl rfl perm
  obtain ⟨files', run'⟩ := succeeds.mp ⟨files, run⟩
  refine ⟨files, files', run, run', ?_, same files files' run run'⟩
  rintro rfl
  exact absurd (run.trans run'.symm) (by decide)

end Generator

end SchemaDto
