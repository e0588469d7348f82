/-
# Barrels cover the output

In the domain layout the barrels form a tree.  The root barrel exports the
domains and the classes of models without a bucket, the barrel of a domain its
subfolders, and the barrel of a subfolder the classes of its models.  Two things
are proved of it, for every mapping and every list of models
(`barrels_cover_models`): each class is exported by one line, which stands in
the barrel beside the file of the class; and each barrel below the root is
exported by one line, and is reached from the root along such lines.

Lines are counted as texts.  Class lines can be told apart whatever the names of
the models are (`Export.lineOf_inj`), so nothing is asked of the names.
-/
import Mathlib.Data.List.Flatten
import Mathlib.Data.List.Perm.Basic
import SchemaDto.Proofs.Output.Modules

namespace SchemaDto

/-! ## Reading barrels -/

/-- The exports of a barrel; other files have none. -/
def File.exports (file : File) : List Export :=
  match file.content with
  | .barrel exports => exports
  | _ => []

/-- The exports as lines. -/
def File.exportLines (file : File) : List String := file.exports.map Export.render

/-- The barrels among files. -/
def barrelsOf (files : List File) : List File := files.filter File.isBarrel

/-- The folder that `./module` names in a file of a folder. -/
def childFolder : Option String → String → String
  | none, module => module
  | some folder, module => folder ++ "/" ++ module

/-- The export is that of one class. -/
def Export.isNamed : Export → Bool
  | named .. => true
  | star _ => false

namespace Generator

variable {generator : Generator} {models : List Model} {files : List File}

/-- The exports of a barrel without the closing one of the enumerations, which
the root barrel has where there are enumerations. -/
def folderExports (generator : Generator) (barrel : File) : List Export :=
  if barrel.folder.isNone && generator.hasEnums then barrel.exports.dropLast else barrel.exports

/-- The folders that a barrel exports. -/
def exportedFolders (generator : Generator) (barrel : File) : List String :=
  (generator.folderExports barrel).filterMap fun
    | .star module => some (childFolder barrel.folder module)
    | .named .. => none

/-- The barrel of the folder is reached from the root barrel along exports of
folders. -/
inductive Reached (generator : Generator) (files : List File) : Option String → Prop
  | root {barrel : File} : barrel ∈ barrelsOf files → barrel.folder = none →
      Reached generator files none
  | child {barrel : File} {folder : String} : Reached generator files barrel.folder →
      barrel ∈ barrelsOf files → folder ∈ generator.exportedFolders barrel →
      Reached generator files (some folder)

theorem barrelsOf_generate (run : generator.generate models = .ok files)
    (emit : generator.settings.emitBarrel = true) :
    barrelsOf files = generator.barrels (models.map (·.name)) := by
  rw [generate_eq_map] at run
  obtain ⟨modules, outcome, rfl⟩ := map_eq_ok_iff.mp run
  have noModules : modules.filter File.isBarrel = [] := by
    refine List.filter_eq_nil_iff.mpr fun file mem => ?_
    rw [isBarrel_of_mem_modules outcome mem]
    exact Bool.false_ne_true
  have barrels : (generator.barrelFiles models).filter File.isBarrel =
      generator.barrelFiles models :=
    List.filter_eq_self.mpr fun file mem => isBarrel_of_mem_barrelFiles mem
  rw [barrelsOf, List.filter_append, noModules, barrels, List.nil_append, barrelFiles, if_pos emit]

/-! ## Lines of classes -/

/-- The models that the barrels export, barrel by barrel. -/
def exportedModels (generator : Generator) (names : List String) : List String :=
  (generator.placement.groups names).flatMap DomainFolder.models ++ generator.unbucketed names

theorem filter_isNamed_ofModel (names : List String) :
    (names.flatMap Export.ofModel).filter Export.isNamed = names.flatMap Export.ofModel := by
  refine List.filter_eq_self.mpr fun statement mem => ?_
  obtain ⟨className, module, rfl⟩ := Export.eq_named_of_mem_flatMap_ofModel mem
  rfl

theorem filter_isNamed_star {α : Type} (name : α → String) (xs : List α) :
    (xs.map fun x => Export.star (name x)).filter Export.isNamed = [] := by
  refine List.filter_eq_nil_iff.mpr fun statement mem => ?_
  obtain ⟨x, -, rfl⟩ := List.mem_map.mp mem
  exact Bool.false_ne_true

theorem filter_isNamed_groupBarrels (group : DomainFolder) :
    ((groupBarrels group).flatMap File.exports).filter Export.isNamed =
      group.models.flatMap Export.ofModel := by
  have own : (groupBarrels group).flatMap File.exports =
      group.barrel ++ group.models.flatMap Export.ofModel := by
    simp only [groupBarrels, List.flatMap_cons, List.flatMap_map, DomainFolder.models,
      List.flatMap_assoc]
    rfl
  rw [own, List.filter_append, DomainFolder.barrel, filter_isNamed_star, filter_isNamed_ofModel,
    List.nil_append]

theorem filter_isNamed_barrels (layout : generator.settings.layout = .domain)
    (names : List String) :
    ((generator.barrels names).flatMap File.exports).filter Export.isNamed =
      (generator.exportedModels names).flatMap Export.ofModel := by
  have closing : (Export.ofEnums generator.hasEnums).filter Export.isNamed = [] := by
    cases generator.hasEnums <;> rfl
  have root : (generator.domainRoot names).exports.filter Export.isNamed =
      (generator.unbucketed names).flatMap Export.ofModel := by
    simp only [domainRoot, barrelFile, File.exports, rootBarrel, List.filter_append,
      filter_isNamed_star, filter_isNamed_ofModel, closing, List.nil_append, List.append_nil]
  rw [barrels_domain layout, List.flatMap_append, List.filter_append, List.flatMap_assoc,
    List.filter_flatMap, List.flatMap_singleton, root, exportedModels, List.flatMap_append,
    List.flatMap_assoc]
  simp only [filter_isNamed_groupBarrels]

theorem mem_unbucketed {names : List String} {model : String} :
    model ∈ generator.unbucketed names ↔
      model ∈ names ∧ generator.placement.bucket? model = none := by
  simp [unbucketed, List.mem_eraseDups]

/-- Every model of the run is exported, and none twice. -/
theorem mem_exportedModels {names : List String} {model : String} :
    model ∈ generator.exportedModels names ↔ model ∈ names := by
  rw [exportedModels, List.mem_append, Placement.mem_groups_flatMap_models, mem_unbucketed]
  cases generator.placement.bucket? model <;> simp

theorem nodup_exportedModels (generator : Generator) (names : List String) :
    (generator.exportedModels names).Nodup := by
  refine List.nodup_append.mpr ⟨Placement.nodup_groups_models _ _, nodup_eraseDups _, ?_⟩
  rintro model inGroups _ outside rfl
  have found := (Placement.mem_groups_flatMap_models.mp inGroups).2
  rw [(mem_unbucketed.mp outside).2] at found
  cases found

theorem render_flatMap_ofModel (names : List String) :
    (names.flatMap Export.ofModel).map Export.render =
      names.flatMap fun model => Purpose.all.map fun purpose => Export.lineOf purpose model := by
  simp only [List.map_flatMap, Export.render_ofModel]

theorem lineOf_mem {names : List String} {model : String} (mem : model ∈ names)
    (purpose : Purpose) :
    Export.lineOf purpose model ∈ (names.flatMap Export.ofModel).map Export.render := by
  rw [render_flatMap_ofModel]
  exact List.mem_flatMap.mpr ⟨model, mem, List.mem_map_of_mem (Purpose.mem_all purpose)⟩

theorem nodup_lines {names : List String} (distinct : names.Nodup) :
    ((names.flatMap Export.ofModel).map Export.render).Nodup := by
  rw [render_flatMap_ofModel]
  refine List.nodup_flatMap.mpr ⟨fun model _ => ?_, distinct.imp fun {a b} ne line inA inB => ?_⟩
  · exact Purpose.nodup_all.map fun _ _ eq => (Export.lineOf_inj eq).1
  · obtain ⟨purpose, -, rfl⟩ := List.mem_map.mp inA
    obtain ⟨purpose', -, eq⟩ := List.mem_map.mp inB
    exact ne (Export.lineOf_inj eq).2.symm

/-- Among lines of barrels, that of a class occurs as often as among those of
class exports: no other line reads the same. -/
theorem count_lineOf (exports : List Export) (purpose : Purpose) (model : String) :
    (exports.map Export.render).count (Export.lineOf purpose model) =
      ((exports.filter Export.isNamed).map Export.render).count (Export.lineOf purpose model) := by
  have others : ((exports.filter fun statement => !statement.isNamed).map Export.render).count
      (Export.lineOf purpose model) = 0 := by
    refine List.count_eq_zero.mpr fun mem => ?_
    obtain ⟨statement, mem, eq⟩ := List.mem_map.mp mem
    cases statement with
    | named c m => simp [Export.isNamed] at mem
    | star m => exact Export.render_named_ne_star _ _ _ eq.symm
  have split := ((List.filter_append_perm Export.isNamed exports).map Export.render).count_eq
    (Export.lineOf purpose model)
  rw [List.map_append, List.count_append, others, Nat.add_zero] at split
  exact split.symm

theorem count_exportLines (layout : generator.settings.layout = .domain) {names : List String}
    {model : String} (mem : model ∈ names) (purpose : Purpose) :
    ((generator.barrels names).flatMap File.exportLines).count (Export.lineOf purpose model) =
      1 := by
  have lines : (generator.barrels names).flatMap File.exportLines =
      ((generator.barrels names).flatMap File.exports).map Export.render :=
    List.map_flatMap.symm
  rw [lines, count_lineOf, filter_isNamed_barrels layout]
  exact List.count_eq_one_of_mem (nodup_lines (generator.nodup_exportedModels names))
    (lineOf_mem (mem_exportedModels.mpr mem) purpose)

/-- The line of a class stands in the barrel beside the file of the class. -/
theorem exists_barrel (layout : generator.settings.layout = .domain) {names : List String}
    {model : String} (mem : model ∈ names) (purpose : Purpose) :
    ∃ barrel ∈ generator.barrels names, barrel.folder = generator.folder model ∧
      Export.lineOf purpose model ∈ barrel.exportLines := by
  cases found : generator.placement.bucket? model with
  | none =>
      refine ⟨generator.domainRoot names, (mem_barrels_domain layout).mpr (.inr rfl), ?_, ?_⟩
      · rw [folder_domain layout, found]
        rfl
      · have line := lineOf_mem (mem_unbucketed.mpr ⟨mem, found⟩) purpose
        simp only [File.exportLines, File.exports, domainRoot, barrelFile, rootBarrel,
          List.map_append]
        exact List.mem_append_left _ (List.mem_append_right _ line)
  | some bucket =>
      obtain ⟨group, inGroups, domain, inner, inGroup, subfolder, inInner⟩ :=
        Placement.mem_groups_models.mpr ⟨mem, found⟩
      refine ⟨barrelFile (some (Bucket.path ⟨group.name, inner.name⟩)) inner.barrel,
        (mem_barrels_domain layout).mpr (.inl ⟨group, inGroups, ?_⟩), ?_,
        lineOf_mem inInner purpose⟩
      · exact mem_groupBarrels.mpr (.inr ⟨inner, inGroup, rfl⟩)
      · rw [folder_domain layout, found, domain, subfolder]
        rfl

/-! ## Lines of folders -/

theorem filterMap_named (f : Export → Option String) (none_of_named : ∀ c m, f (.named c m) = none)
    (names : List String) : (names.flatMap Export.ofModel).filterMap f = [] := by
  refine List.filterMap_eq_nil_iff.mpr fun statement mem => ?_
  obtain ⟨className, module, rfl⟩ := Export.eq_named_of_mem_flatMap_ofModel mem
  exact none_of_named className module

theorem folderExports_root (names : List String) :
    generator.folderExports (generator.domainRoot names) =
      (generator.placement.groups names).map (fun group => .star group.name) ++
        (generator.unbucketed names).flatMap Export.ofModel := by
  simp only [folderExports, domainRoot, barrelFile, File.exports, rootBarrel]
  cases generator.hasEnums with
  | false => exact List.append_nil _
  | true => exact List.dropLast_concat

theorem exportedFolders_root (names : List String) :
    generator.exportedFolders (generator.domainRoot names) =
      (generator.placement.groups names).map (·.name) := by
  rw [exportedFolders, folderExports_root, List.filterMap_append,
    filterMap_named _ (fun _ _ => rfl), List.append_nil, List.filterMap_map]
  exact congrFun (List.filterMap_eq_map' (f := fun group : DomainFolder => group.name)) _

theorem exportedFolders_domain (group : DomainFolder) :
    generator.exportedFolders (barrelFile (some group.name) group.barrel) =
      group.subfolders.map fun inner => Bucket.path ⟨group.name, inner.name⟩ := by
  have all : generator.folderExports (barrelFile (some group.name) group.barrel) =
      group.subfolders.map fun inner => .star inner.name := rfl
  rw [exportedFolders, all, List.filterMap_map]
  exact congrFun (List.filterMap_eq_map' (f := fun inner : Subfolder =>
    Bucket.path ⟨group.name, inner.name⟩)) group.subfolders

theorem exportedFolders_subfolder (folder : String) (inner : Subfolder) :
    generator.exportedFolders (barrelFile (some folder) inner.barrel) = [] :=
  filterMap_named _ (fun _ _ => rfl) inner.models

theorem exportedFolders_groupBarrels (group : DomainFolder) :
    (groupBarrels group).flatMap generator.exportedFolders =
      group.subfolders.map fun inner => Bucket.path ⟨group.name, inner.name⟩ := by
  rw [groupBarrels, List.flatMap_cons, exportedFolders_domain, List.flatMap_map,
    List.flatMap_eq_nil_iff.mpr fun inner _ => exportedFolders_subfolder _ inner,
    List.append_nil]

/-- The exports of folders name every folder of the groups once. -/
theorem exportedFolders_perm (layout : generator.settings.layout = .domain)
    (names : List String) :
    ((generator.barrels names).flatMap generator.exportedFolders).Perm
      ((generator.placement.groups names).flatMap DomainFolder.folders) := by
  rw [barrels_domain layout, List.flatMap_append, List.flatMap_assoc, List.flatMap_singleton,
    exportedFolders_root]
  simp only [exportedFolders_groupBarrels]
  exact List.perm_append_comm.trans (List.map_append_flatMap_perm _ _ _)

theorem folder_mem_of_mem_barrels (layout : generator.settings.layout = .domain)
    {names : List String} {barrel : File} (mem : barrel ∈ generator.barrels names)
    {folder : String} (h : barrel.folder = some folder) :
    folder ∈ (generator.placement.groups names).flatMap DomainFolder.folders := by
  have key : barrel.key ∈ (generator.barrels names).map File.key := List.mem_map_of_mem mem
  rw [keys_of_barrels] at key
  obtain ⟨folder', inFolders, eq⟩ := List.mem_map.mp key
  obtain rfl : folder' = some folder := (congrArg Prod.fst eq).trans h
  simpa [barrelFolders, layout] using inFolders

theorem count_exportedFolders (layout : generator.settings.layout = .domain)
    {names : List String} {barrel : File} (mem : barrel ∈ generator.barrels names)
    {folder : String} (h : barrel.folder = some folder) :
    ((generator.barrels names).flatMap generator.exportedFolders).count folder = 1 := by
  rw [(exportedFolders_perm layout names).count_eq]
  exact List.count_eq_one_of_mem (generator.placement.grouped_groups names).nodup_folders
    (folder_mem_of_mem_barrels layout mem h)

/-- The root barrel leads to the domains, and these lead to their subfolders. -/
theorem reached_of_mem_barrels (layout : generator.settings.layout = .domain)
    {names : List String} (all : barrelsOf files = generator.barrels names) {barrel : File}
    (mem : barrel ∈ generator.barrels names) : generator.Reached files barrel.folder := by
  have rootMem : generator.domainRoot names ∈ barrelsOf files :=
    all ▸ (mem_barrels_domain layout).mpr (.inr rfl)
  have root : generator.Reached files none := .root rootMem rfl
  rcases (mem_barrels_domain layout).mp mem with ⟨group, inGroups, mem⟩ | rfl
  · have domain : generator.Reached files (some group.name) := by
      refine .child root rootMem ?_
      rw [exportedFolders_root]
      exact List.mem_map_of_mem inGroups
    rcases mem_groupBarrels.mp mem with rfl | ⟨inner, inGroup, rfl⟩
    · exact domain
    · have domainMem : barrelFile (some group.name) group.barrel ∈ barrelsOf files :=
        all ▸ (mem_barrels_domain layout).mpr
          (.inl ⟨group, inGroups, mem_groupBarrels.mpr (.inl rfl)⟩)
      refine .child domain domainMem ?_
      rw [exportedFolders_domain]
      exact List.mem_map_of_mem inGroup
  · exact root

/-- Only the closing export of the enumerations is left out of `folderExports`. -/
theorem exports_of_mem_barrels (layout : generator.settings.layout = .domain)
    {names : List String} {barrel : File} (mem : barrel ∈ generator.barrels names) :
    barrel.exports = generator.folderExports barrel ++
      if barrel.folder.isNone then Export.ofEnums generator.hasEnums else [] := by
  rcases (mem_barrels_domain layout).mp mem with ⟨group, -, mem⟩ | rfl
  · rcases mem_groupBarrels.mp mem with rfl | ⟨inner, -, rfl⟩
    · exact (List.append_nil _).symm
    · exact (List.append_nil _).symm
  · rw [folderExports_root]
    rfl

/-! ## Coverage -/

/-- In the domain layout every class of the run is exported by exactly one line of
the barrels, which stands in the barrel beside the files of its model.  Every
barrel below the root is exported by exactly one line, the closing export of the
enumerations set aside, and is reached from the root barrel. -/
theorem barrels_cover_models (layout : generator.settings.layout = .domain)
    (emit : generator.settings.emitBarrel = true)
    (run : generator.generate models = .ok files) :
    (∀ model ∈ models, ∀ statement ∈ Export.ofModel model.name,
      ((barrelsOf files).flatMap File.exportLines).count statement.render = 1 ∧
      ∃ barrel ∈ barrelsOf files, statement.render ∈ barrel.exportLines ∧
        barrel.folder = generator.folder model.name ∧
        ∀ purpose, ∃ cls, generator.classOf model purpose = .ok cls ∧
          (⟨barrel.folder, purpose.fileName model.name, .classes cls⟩ : File) ∈ files) ∧
    (∀ barrel ∈ barrelsOf files, ∀ folder, barrel.folder = some folder →
      ((barrelsOf files).flatMap generator.exportedFolders).count folder = 1 ∧
      generator.Reached files (some folder)) ∧
    ∀ barrel ∈ barrelsOf files, barrel.exports = generator.folderExports barrel ++
      if barrel.folder.isNone then Export.ofEnums generator.hasEnums else [] := by
  have all := barrelsOf_generate run emit
  rw [all]
  refine ⟨fun model mem statement isExport => ?_, fun barrel mem folder h => ⟨?_, ?_⟩,
    fun barrel mem => exports_of_mem_barrels layout mem⟩
  · obtain ⟨purpose, -, rfl⟩ := List.mem_map.mp isExport
    have named : model.name ∈ models.map (·.name) := List.mem_map_of_mem mem
    obtain ⟨barrel, isBarrel, beside, line⟩ := exists_barrel layout named purpose
    refine ⟨count_exportLines layout named purpose, barrel, isBarrel, line, beside, fun other => ?_⟩
    obtain ⟨cls, h⟩ := exists_classOf run mem other
    refine ⟨cls, h, (mem_files run).mpr (.inr (.inl ⟨model, mem, other, cls, h, ?_⟩))⟩
    rw [beside]
    rfl
  · exact count_exportedFolders layout mem h
  · exact h ▸ reached_of_mem_barrels layout all mem

/-- Models of the shop: one without a bucket, and one that is repeated. -/
def shopModels : List Model :=
  [{ name := "User", fields := [{ name := "status", type := "Status", enumName := some "Status" }] },
   { name := "Profile" }, { name := "Role" }, { name := "Post" }, { name := "User" }]

theorem shop_covered : ∃ files, shop.generate shopModels = .ok files ∧
    ((barrelsOf files).flatMap File.exportLines).count
      "export { CreateUserDto } from './create-user.dto';" = 1 ∧
    ((barrelsOf files).flatMap shop.exportedFolders).count "users/account" = 1 ∧
    shop.Reached files (some "users/account") := by
  obtain ⟨files, run⟩ : ∃ files, shop.generate shopModels = .ok files := ⟨_, rfl⟩
  obtain ⟨classes, folders, -⟩ := barrels_cover_models rfl rfl run
  obtain ⟨once, barrel, isBarrel, -, beside, -⟩ := classes { name := "User" } (by decide)
    (.named "CreateUserDto" "create-user.dto") (by decide)
  obtain ⟨named, reached⟩ := folders barrel isBarrel "users/account" beside
  exact ⟨files, run, once, named, reached⟩

end Generator

end SchemaDto
