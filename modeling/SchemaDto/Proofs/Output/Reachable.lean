/-
# Reaching a class from the root barrel

A barrel names modules beside it: `./module` is the file of that name in the
folder of the barrel if there is one, and the barrel of the folder of that name
otherwise.  The files of the output root thus stand before the domains, and the
barrel of a domain before its subfolders.  A class is reached from the root barrel
exactly if its domain is called like no module of the root and its subfolder is
not called `index` (`reachable_iff`).  Nothing checks the names of domains and
subfolders, so there are runs with a class that is not reached.
-/
import SchemaDto.Proofs.Output.References

namespace SchemaDto

/-! ## Following exports -/

/-- The module that an export names. -/
def Export.module : Export → String
  | named _ moduleName => moduleName
  | star moduleName => moduleName

/-- Where `./module` leads in a file of a folder: to the file beside it, if there is
one, or else to the barrel of a folder.  The modules `.` and `..` are not meant. -/
def resolve (files : List File) (folder : Option String) (module : String) :
    Option String × String :=
  if (folder, module ++ ".ts") ∈ files.map File.key then (folder, module ++ ".ts")
  else (some (childFolder folder module), barrelFileName)

/-- The file is reached from the root barrel along exports. -/
inductive Reachable (files : List File) : File → Prop
  | root {file : File} : file ∈ files → file.key = (none, barrelFileName) → Reachable files file
  | step {file target : File} {statement : Export} : Reachable files file →
      statement ∈ file.exports → target ∈ files →
      target.key = resolve files file.folder statement.module → Reachable files target

theorem Reachable.mem {files : List File} {file : File} (h : Reachable files file) :
    file ∈ files := by
  cases h with
  | root mem _ => exact mem
  | step _ _ mem _ => exact mem

/-- The module of a barrel. -/
def barrelModule : String := "index"

theorem eq_barrelModule_iff {module : String} :
    barrelFileName = module ++ ".ts" ↔ module = barrelModule := by
  rw [show barrelFileName = barrelModule ++ ".ts" by decide, String.append_left_inj, eq_comm]

theorem eq_enumsModule_iff {module : String} :
    enumsFileName = module ++ ".ts" ↔ module = enumsModule := by
  rw [show enumsFileName = enumsModule ++ ".ts" by decide, String.append_left_inj, eq_comm]

namespace Generator

/-- The modules of the output root. -/
def rootModules (generator : Generator) (names : List String) : List String :=
  barrelModule :: ((if generator.hasEnums then [enumsModule] else []) ++
    (generator.unbucketed names).flatMap fun model => Purpose.all.map (·.moduleName model))

variable {generator : Generator} {models : List Model} {files : List File}

theorem mem_rootModules {names : List String} {module : String} :
    module ∈ generator.rootModules names ↔ module = barrelModule ∨
      (generator.hasEnums = true ∧ module = enumsModule) ∨
      ∃ model ∈ generator.unbucketed names, ∃ purpose : Purpose,
        module = purpose.moduleName model := by
  have enums : module ∈ (if generator.hasEnums then [enumsModule] else []) ↔
      generator.hasEnums = true ∧ module = enumsModule := by
    cases generator.hasEnums <;> simp
  have classes : ∀ model, module ∈ Purpose.all.map (·.moduleName model) ↔
      ∃ purpose : Purpose, module = purpose.moduleName model := by
    intro model
    simp [Purpose.mem_all, eq_comm]
  simp only [rootModules, List.mem_cons, List.mem_append, enums, List.mem_flatMap, classes]

/-! ## Files beside a barrel -/

/-- An export of a class leads to the file beside the barrel. -/
theorem beside_of_named (run : generator.generate models = .ok files) {barrel : File}
    (mem : barrel ∈ files) {className module : String}
    (exported : .named className module ∈ barrel.exports) :
    (barrel.folder, module ++ ".ts") ∈ files.map File.key := by
  obtain ⟨-, isBarrel⟩ := mem_barrels_of_exports run mem exported
  obtain ⟨name, isName, folder, purpose, rfl, rfl⟩ := model_of_named_mem isBarrel exported
  obtain ⟨model, isModel, rfl⟩ := List.mem_map.mp isName
  obtain ⟨target, isFile, key, -⟩ := exists_classFile run isModel purpose
  exact List.mem_map.mpr ⟨target, isFile, folder ▸ key⟩

/-- A class is reached from the barrel that exports it. -/
theorem reachable_classFile (run : generator.generate models = .ok files) {barrel : File}
    (h : Reachable files barrel) {model : Model} (mem : model ∈ models) {purpose : Purpose}
    {cls : ClassFile} (step : generator.classOf model purpose = .ok cls)
    (folder : barrel.folder = generator.folder model.name)
    (exported : .named (purpose.className model.name) (purpose.moduleName model.name) ∈
      barrel.exports) : Reachable files (generator.classFile model.name purpose cls) := by
  have beside := beside_of_named run h.mem exported
  refine .step h exported (classFile_mem run mem step) ?_
  rw [resolve, Export.module, if_pos beside, folder]
  rfl

section Domains

variable (layout : generator.settings.layout = .domain)
  (emit : generator.settings.emitBarrel = true)
  (run : generator.generate models = .ok files)

include layout emit run

theorem domainRoot_mem : generator.domainRoot (models.map (·.name)) ∈ files :=
  barrel_mem run emit ((mem_barrels_domain layout).mpr (.inr rfl))

theorem beside_root_iff {module : String} : (none, module ++ ".ts") ∈ files.map File.key ↔
    module ∈ generator.rootModules (models.map (·.name)) := by
  rw [mem_rootModules, List.mem_map]
  constructor
  · rintro ⟨file, mem, key⟩
    obtain ⟨folder, name⟩ := Prod.mk.inj key
    rcases (mem_files run).mp mem with mem | ⟨model, isModel, purpose, cls, -, rfl⟩ | mem
    · obtain ⟨enums, rfl⟩ := mem_enumFiles.mp mem
      exact .inr (.inl ⟨enums, eq_enumsModule_iff.mp name⟩)
    · refine .inr (.inr ⟨model.name, mem_unbucketed.mpr ⟨List.mem_map_of_mem isModel, ?_⟩,
        purpose, ((String.append_left_inj _).mp name).symm⟩)
      exact Option.map_eq_none_iff.mp ((folder_domain layout model.name).symm.trans folder)
    · rw [name_of_mem_barrels (mem_barrelFiles.mp mem).2] at name
      exact .inl (eq_barrelModule_iff.mp name)
  · rintro (rfl | ⟨enums, rfl⟩ | ⟨name, outside, purpose, rfl⟩)
    · exact ⟨_, domainRoot_mem layout emit run, rfl⟩
    · exact ⟨_, enumsFile_mem run enums, rfl⟩
    · obtain ⟨isName, found⟩ := mem_unbucketed.mp outside
      obtain ⟨model, isModel, rfl⟩ := List.mem_map.mp isName
      obtain ⟨target, isFile, key, -⟩ := exists_classFile run isModel purpose
      rw [folder_domain layout, found] at key
      exact ⟨target, isFile, key⟩

/-- The folder of a domain holds its barrel and no other file. -/
theorem beside_domain_iff {group : DomainFolder}
    (mem : group ∈ generator.placement.groups (models.map (·.name))) {module : String} :
    (some group.name, module ++ ".ts") ∈ files.map File.key ↔ module = barrelModule := by
  have noSlash := (generator.placement.grouped_groups _).noSlash group mem
  rw [List.mem_map]
  constructor
  · rintro ⟨file, isFile, key⟩
    obtain ⟨folder, name⟩ := Prod.mk.inj key
    rcases (mem_files run).mp isFile with isEnums | ⟨model, -, purpose, cls, -, rfl⟩ | isBarrel
    · rw [(mem_enumFiles.mp isEnums).2] at folder
      cases folder
    · rw [classFile, folder_domain layout] at folder
      obtain ⟨bucket, -, path⟩ := Option.map_eq_some_iff.mp folder
      exact absurd path.symm (Bucket.ne_path noSlash bucket)
    · rw [name_of_mem_barrels (mem_barrelFiles.mp isBarrel).2] at name
      exact eq_barrelModule_iff.mp name
  · rintro rfl
    have isBarrel := (mem_barrels_domain layout).mpr
      (.inl ⟨group, mem, mem_groupBarrels.mpr (.inl rfl)⟩)
    exact ⟨_, barrel_mem run emit isBarrel, rfl⟩

/-! ## What is reached is not hidden -/

/-- The folder is the output root, or no file stands before its domain and before its
subfolder. -/
def Visible (generator : Generator) (names : List String) : Option String → Prop
  | none => True
  | some folder => ∃ domain, '/' ∉ domain.toList ∧ domain ∉ generator.rootModules names ∧
      (folder = domain ∨ ∃ subfolder, subfolder ≠ barrelModule ∧
        folder = Bucket.path ⟨domain, subfolder⟩)

/-- An export that does not lead to a file beside the barrel leads from a visible
folder to a visible one. -/
theorem visible_child {barrel : File} (mem : barrel ∈ files) {statement : Export}
    (exported : statement ∈ barrel.exports)
    (free : (barrel.folder, statement.module ++ ".ts") ∉ files.map File.key)
    (visible : generator.Visible (models.map (·.name)) barrel.folder) :
    generator.Visible (models.map (·.name))
      (some (childFolder barrel.folder statement.module)) := by
  cases statement with
  | named className module => exact absurd (beside_of_named run mem exported) free
  | star module =>
      obtain ⟨-, isBarrel⟩ := mem_barrels_of_exports run mem exported
      rcases (mem_barrels_domain layout).mp isBarrel with ⟨group, inGroups, isBarrel⟩ | rfl
      · have noSlash := (generator.placement.grouped_groups _).noSlash group inGroups
        rcases mem_groupBarrels.mp isBarrel with rfl | ⟨inner, -, rfl⟩
        · have notIndex : module ≠ barrelModule :=
            fun eq => free ((beside_domain_iff layout emit run inGroups).mpr eq)
          obtain ⟨domain, noSlash', shown, isDomain | ⟨subfolder, -, path⟩⟩ := visible
          · exact ⟨domain, noSlash', shown, .inr ⟨module, notIndex, isDomain ▸ rfl⟩⟩
          · exact absurd path (Bucket.ne_path noSlash _)
        · exact absurd exported (Export.star_not_mem_flatMap_ofModel _ _)
      · have shown : module ∉ generator.rootModules (models.map (·.name)) :=
          fun inRoot => free ((beside_root_iff layout emit run).mpr inRoot)
        rcases star_mem_domainRoot.mp exported with ⟨group, inGroups, rfl⟩ | enums
        · have noSlash := (generator.placement.grouped_groups _).noSlash group inGroups
          exact ⟨group.name, noSlash, shown, .inl rfl⟩
        · exact absurd (mem_rootModules.mpr (.inr (.inl enums))) shown

/-- By induction on the way from the root, every file that is reached is in a visible
folder. -/
theorem visible_of_reachable {file : File} (h : Reachable files file) :
    generator.Visible (models.map (·.name)) file.folder := by
  induction h with
  | root _ key =>
      obtain ⟨folder, -⟩ := Prod.mk.inj key
      rw [folder]
      trivial
  | step reached exported _ key ih =>
      unfold resolve at key
      split at key
      · obtain ⟨folder, -⟩ := Prod.mk.inj key
        exact folder ▸ ih
      · next free =>
          obtain ⟨folder, -⟩ := Prod.mk.inj key
          exact folder ▸ visible_child layout emit run reached.mem exported free ih

theorem shown_of_reachable {file : File} (h : Reachable files file) {model : String}
    (folder : file.folder = generator.folder model) {bucket : Bucket}
    (found : generator.placement.bucket? model = some bucket) :
    bucket.domain ∉ generator.rootModules (models.map (·.name)) ∧
      bucket.subfolder ≠ barrelModule := by
  have noSlash := Placement.slash_not_mem_of_bucket? found
  have visible := visible_of_reachable layout emit run h
  rw [folder, folder_domain layout, found, Option.map_some] at visible
  obtain ⟨domain, noSlash', shown, isDomain | ⟨subfolder, notIndex, path⟩⟩ := visible
  · exact absurd isDomain.symm (Bucket.ne_path noSlash' bucket)
  · rw [Bucket.path_inj noSlash noSlash' path]
    exact ⟨shown, notIndex⟩

/-! ## What is not hidden is reached -/

theorem reachable_root : Reachable files (generator.domainRoot (models.map (·.name))) :=
  .root (domainRoot_mem layout emit run) rfl

/-- A domain that no module of the root hides is reached. -/
theorem reachable_domain {group : DomainFolder}
    (mem : group ∈ generator.placement.groups (models.map (·.name)))
    (shown : group.name ∉ generator.rootModules (models.map (·.name))) :
    Reachable files (barrelFile (some group.name) group.barrel) := by
  have exported := star_mem_domainRoot.mpr (.inl ⟨group, mem, rfl⟩)
  have isBarrel := (mem_barrels_domain layout).mpr
    (.inl ⟨group, mem, mem_groupBarrels.mpr (.inl rfl)⟩)
  refine .step (reachable_root layout emit run) exported
    (barrel_mem run emit isBarrel) ?_
  have free : ¬(none, group.name ++ ".ts") ∈ files.map File.key :=
    fun beside => shown ((beside_root_iff layout emit run).mp beside)
  exact (if_neg free).symm

theorem reachable_subfolder {group : DomainFolder}
    (mem : group ∈ generator.placement.groups (models.map (·.name)))
    (shown : group.name ∉ generator.rootModules (models.map (·.name)))
    {inner : Subfolder} (inGroup : inner ∈ group.subfolders)
    (notIndex : inner.name ≠ barrelModule) :
    Reachable files (barrelFile (some (Bucket.path ⟨group.name, inner.name⟩)) inner.barrel) := by
  have exported : .star inner.name ∈ (barrelFile (some group.name) group.barrel).exports :=
    List.mem_map_of_mem inGroup
  have isBarrel := (mem_barrels_domain layout).mpr
    (.inl ⟨group, mem, mem_groupBarrels.mpr (.inr ⟨inner, inGroup, rfl⟩)⟩)
  refine .step (reachable_domain layout emit run mem shown) exported
    (barrel_mem run emit isBarrel) ?_
  have free : ¬(some group.name, inner.name ++ ".ts") ∈ files.map File.key :=
    fun beside => notIndex ((beside_domain_iff layout emit run mem).mp beside)
  exact (if_neg free).symm

/-- Every class of a successful run has its file, which is reached from the root
barrel exactly if neither its domain nor its subfolder is hidden. -/
theorem reachable_iff {model : Model} (mem : model ∈ models) (purpose : Purpose) :
    ∃ cls, generator.classOf model purpose = .ok cls ∧
      generator.classFile model.name purpose cls ∈ files ∧
      (Reachable files (generator.classFile model.name purpose cls) ↔
        ∀ bucket, generator.placement.bucket? model.name = some bucket →
          bucket.domain ∉ generator.rootModules (models.map (·.name)) ∧
            bucket.subfolder ≠ barrelModule) := by
  obtain ⟨cls, step⟩ := exists_classOf run mem purpose
  have isName : model.name ∈ models.map (·.name) := List.mem_map_of_mem mem
  refine ⟨cls, step, classFile_mem run mem step, ?_, ?_⟩
  · intro reached bucket found
    exact shown_of_reachable layout emit run reached rfl found
  · intro shown
    cases found : generator.placement.bucket? model.name with
    | none =>
        refine reachable_classFile run (reachable_root layout emit run) mem step ?_ ?_
        · rw [folder_domain layout, found]
          rfl
        · have exported := Export.named_mem_flatMap_ofModel.mpr
            ⟨model.name, mem_unbucketed.mpr ⟨isName, found⟩, purpose, rfl, rfl⟩
          exact List.mem_append_left _ (List.mem_append_right _ exported)
    | some bucket =>
        obtain ⟨group, inGroups, domain, inner, inGroup, subfolder, inInner⟩ :=
          Placement.mem_groups_models.mpr ⟨isName, found⟩
        obtain ⟨shown, notIndex⟩ := shown bucket found
        have reached := reachable_subfolder layout emit run inGroups (domain ▸ shown) inGroup
          (subfolder ▸ notIndex)
        refine reachable_classFile run reached mem step ?_ ?_
        · rw [folder_domain layout, found, domain, subfolder]
          rfl
        · exact Export.named_mem_flatMap_ofModel.mpr ⟨model.name, inInner, purpose, rfl, rfl⟩

end Domains

/-- Nothing stands before the domain of users and its subfolder. -/
theorem shop_reaches_user : ∃ files, shop.generate shopModels = .ok files ∧
    ∃ file, Reachable files file ∧ file.key = (some "users/account", "create-user.dto.ts") := by
  obtain ⟨files, run⟩ : ∃ files, shop.generate shopModels = .ok files := ⟨_, rfl⟩
  have found : shop.placement.bucket? "User" = some ⟨"users", "account"⟩ := by decide
  have key : (shop.folder "User", Purpose.create.fileName "User") =
      (some "users/account", "create-user.dto.ts") := by decide
  obtain ⟨cls, -, -, reached⟩ := reachable_iff rfl rfl run List.mem_cons_self .create
  refine ⟨files, run, _, reached.mpr ?_, key⟩
  intro bucket isBucket
  obtain rfl := Option.some.inj (found.symm.trans isBucket)
  decide

/-- The file of enumerations stands before the domain of that name. -/
theorem shop_hides_role : ∃ files, shop.generate [{ name := "Role" }] = .ok files ∧
    ∃ file ∈ files, file.key = (some "enums/role", "read-role.dto.ts") ∧
      file.holdsClass = true ∧ ¬Reachable files file := by
  obtain ⟨files, run⟩ : ∃ files, shop.generate [{ name := "Role" }] = .ok files := ⟨_, rfl⟩
  obtain ⟨cls, step⟩ := exists_classOf run (List.mem_singleton_self _) .read
  have isFile := classFile_mem run (List.mem_singleton_self _) step
  have found : shop.placement.bucket? "Role" = some ⟨"enums", "role"⟩ := by decide
  have key : (shop.folder "Role", Purpose.read.fileName "Role") =
      (some "enums/role", "read-role.dto.ts") := by decide
  refine ⟨files, run, _, isFile, key, rfl, ?_⟩
  intro reached
  obtain ⟨shown, -⟩ := shown_of_reachable rfl rfl run reached rfl found
  exact shown (by decide)

end Generator

end SchemaDto
