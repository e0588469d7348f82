/-
# Where files go

Each file has a key: its folder and its name in it.  The file of enumerations
and the barrels have keys of their own under every domain mapping, so two files
of a run have the same key only if they are class files, and they are so exactly
if two models of the run share folder and kebab case (`keys_nodup_iff`).
-/
import SchemaDto.Proofs.Output.Run
import SchemaDto.Proofs.Placement.Groups

namespace SchemaDto

/-- The file holds a class, and is neither a barrel nor the file of enumerations. -/
def File.holdsClass (file : File) : Bool :=
  match file.content with
  | .classes _ => true
  | _ => false

namespace Generator

variable {generator : Generator} {models : List Model} {files : List File}

/-! ## The folders of the barrels -/

theorem barrels_flat (layout : generator.settings.layout = .flat) (names : List String) :
    generator.barrels names = [barrelFile none (flatBarrel names generator.hasEnums)] := by
  simp only [barrels, layout]

/-- The root barrel of the domain layout. -/
def domainRoot (generator : Generator) (names : List String) : File :=
  barrelFile none (rootBarrel (generator.placement.groups names) (generator.unbucketed names)
    generator.hasEnums)

theorem barrels_domain (layout : generator.settings.layout = .domain) (names : List String) :
    generator.barrels names =
      (generator.placement.groups names).flatMap groupBarrels ++ [generator.domainRoot names] := by
  simp only [barrels, layout, domainRoot]

theorem mem_groupBarrels {group : DomainFolder} {file : File} : file ∈ groupBarrels group ↔
    file = barrelFile (some group.name) group.barrel ∨ ∃ inner ∈ group.subfolders,
      file = barrelFile (some (Bucket.path ⟨group.name, inner.name⟩)) inner.barrel := by
  simp only [groupBarrels, List.mem_cons, List.mem_map, eq_comm]

theorem mem_barrels_domain (layout : generator.settings.layout = .domain) {names : List String}
    {file : File} : file ∈ generator.barrels names ↔
      (∃ group ∈ generator.placement.groups names, file ∈ groupBarrels group) ∨
        file = generator.domainRoot names := by
  rw [barrels_domain layout, List.mem_append, List.mem_flatMap, List.mem_singleton]

/-- The folders that have a barrel. -/
def barrelFolders (generator : Generator) (names : List String) : List (Option String) :=
  match generator.settings.layout with
  | .flat => [none]
  | .domain => ((generator.placement.groups names).flatMap DomainFolder.folders).map some ++ [none]

theorem keys_of_groupBarrels (group : DomainFolder) :
    (groupBarrels group).map File.key =
      group.folders.map fun folder => (some folder, barrelFileName) := by
  simp [groupBarrels, DomainFolder.folders, barrelFile, File.key]

theorem keys_of_barrels (generator : Generator) (names : List String) :
    (generator.barrels names).map File.key =
      (generator.barrelFolders names).map fun folder => (folder, barrelFileName) := by
  cases layout : generator.settings.layout with
  | flat => simp only [barrels_flat layout, barrelFolders, layout]; rfl
  | domain =>
      simp only [barrels_domain layout, barrelFolders, layout, List.map_append, List.map_flatMap,
        keys_of_groupBarrels, List.map_map]
      rfl

theorem nodup_barrelFolders (generator : Generator) (names : List String) :
    (generator.barrelFolders names).Nodup := by
  unfold barrelFolders
  split
  · exact List.nodup_singleton none
  · have folders := (generator.placement.grouped_groups names).nodup_folders
    refine List.nodup_append.mpr ⟨folders.map fun a b => Option.some.inj,
      List.nodup_singleton none, ?_⟩
    rintro folder mem _ root rfl
    obtain ⟨inner, -, eq⟩ := List.mem_map.mp mem
    rw [List.mem_singleton.mp root] at eq
    cases eq

/-! ## Files that hold no class -/

theorem holdsClass_of_mem_barrels {names : List String} {file : File}
    (mem : file ∈ generator.barrels names) : file.holdsClass = false := by
  cases layout : generator.settings.layout with
  | flat =>
      rw [barrels_flat layout] at mem
      rw [List.mem_singleton.mp mem]
      rfl
  | domain =>
      rcases (mem_barrels_domain layout).mp mem with ⟨group, -, mem⟩ | rfl
      · rcases mem_groupBarrels.mp mem with rfl | ⟨inner, -, rfl⟩
        · rfl
        · rfl
      · rfl

theorem holdsClass_of_mem_barrelFiles {file : File}
    (mem : file ∈ generator.barrelFiles models) : file.holdsClass = false :=
  holdsClass_of_mem_barrels (mem_barrelFiles.mp mem).2

/-- Leaving the class files out leaves the file of enumerations and the barrels. -/
theorem filter_holdsClass (run : generator.generate models = .ok files) :
    files.filter (fun file => !file.holdsClass) =
      generator.enumFiles ++ generator.barrelFiles models := by
  obtain ⟨classes, steps, rfl⟩ := generate_eq_ok_iff.mp run
  have barrels : ∀ file ∈ generator.barrelFiles models, (!file.holdsClass) = true := by
    intro file mem
    rw [holdsClass_of_mem_barrelFiles mem]
    rfl
  rw [filter_parts _ true false true steps rfl (fun _ _ _ => rfl) barrels]
  simp

/-! ## The three groups of keys -/

theorem name_of_mem_barrels {names : List String} {file : File}
    (mem : file ∈ generator.barrels names) : file.name = barrelFileName := by
  have key : file.key ∈ (generator.barrels names).map File.key := List.mem_map_of_mem mem
  rw [keys_of_barrels] at key
  obtain ⟨folder, -, eq⟩ := List.mem_map.mp key
  exact (congrArg Prod.snd eq).symm

theorem nodup_keys_of_fixed (generator : Generator) (models : List Model) :
    ((generator.enumFiles ++ generator.barrelFiles models).map File.key).Nodup := by
  rw [List.map_append]
  refine List.nodup_append.mpr ⟨?_, ?_, ?_⟩
  · unfold enumFiles
    split
    · exact List.nodup_singleton _
    · exact .nil
  · unfold barrelFiles
    split
    · rw [keys_of_barrels]
      exact (generator.nodup_barrelFolders _).map fun a b eq => congrArg Prod.fst eq
    · exact .nil
  · -- a barrel is called `index.ts`, the file of enumerations is not
    rintro _ ofEnums _ ofBarrel rfl
    obtain ⟨enums, mem, eq⟩ := List.mem_map.mp ofEnums
    obtain ⟨barrel, mem', eq'⟩ := List.mem_map.mp ofBarrel
    have names : enums.name = barrel.name := congrArg Prod.snd (eq.trans eq'.symm)
    rw [(mem_enumFiles.mp mem).2, name_of_mem_barrels (mem_barrelFiles.mp mem').2] at names
    exact absurd (show enumsFileName = barrelFileName from names) (by decide)

/-- The keys of the class files of a model. -/
def classKeys (generator : Generator) (model : String) : List (Option String × String) :=
  Purpose.all.map fun purpose => (generator.folder model, purpose.fileName model)

theorem nodup_classKeys (generator : Generator) (model : String) :
    (generator.classKeys model).Nodup :=
  Purpose.nodup_all.map fun _ _ eq => (Purpose.fileName_inj.mp (congrArg Prod.snd eq)).1

theorem disjoint_classKeys_iff {a b : String} :
    (generator.classKeys a).Disjoint (generator.classKeys b) ↔
      ¬(generator.folder a = generator.folder b ∧ Text.kebab a = Text.kebab b) := by
  constructor
  · -- sharing both, the two models share the file of any purpose
    rintro apart ⟨folders, kebabs⟩
    have shared : (generator.folder a, Purpose.create.fileName a) =
        (generator.folder b, Purpose.create.fileName b) := by
      rw [folders, Purpose.fileName_inj.mpr ⟨rfl, kebabs⟩]
    exact apart (List.mem_map_of_mem (Purpose.mem_all .create))
      (shared ▸ List.mem_map_of_mem (Purpose.mem_all .create))
  · intro different key ofA ofB
    obtain ⟨purpose, -, rfl⟩ := List.mem_map.mp ofA
    obtain ⟨purpose', -, eq⟩ := List.mem_map.mp ofB
    obtain ⟨folders, names⟩ := Prod.mk.inj eq
    exact different ⟨folders.symm, (Purpose.fileName_inj.mp names).2.symm⟩

theorem nodup_flatMap_classKeys_iff : (models.flatMap fun model =>
      generator.classKeys model.name).Nodup ↔
    models.Pairwise fun a b =>
      ¬(generator.folder a.name = generator.folder b.name ∧
        Text.kebab a.name = Text.kebab b.name) := by
  rw [List.nodup_flatMap]
  constructor
  · rintro ⟨-, apart⟩
    exact apart.imp disjoint_classKeys_iff.mp
  · intro different
    exact ⟨fun model _ => nodup_classKeys generator model.name,
      different.imp disjoint_classKeys_iff.mpr⟩

theorem keys_of_generate (run : generator.generate models = .ok files) :
    (files.map File.key).Perm
      ((generator.enumFiles ++ generator.barrelFiles models).map File.key ++
        models.flatMap fun model => generator.classKeys model.name) := by
  obtain ⟨classes, h, rfl⟩ := generate_eq_ok_iff.mp run
  have ofClasses : classes.flatten.map File.key =
      models.flatMap fun model => generator.classKeys model.name := by
    rw [List.map_flatten, List.flatMap_def,
      map_of_mapM_eq_ok h fun model ofModel step => keys_of_modelFiles step]
    rfl
  rw [← ofClasses, ← List.map_append]
  refine List.Perm.map _ ?_
  rw [List.append_assoc, List.append_assoc]
  exact List.Perm.append_left _ List.perm_append_comm

theorem fixed_name_ne_fileName {file : File}
    (mem : file ∈ generator.enumFiles ++ generator.barrelFiles models)
    (model : String) (purpose : Purpose) : file.name ≠ purpose.fileName model := by
  rcases List.mem_append.mp mem with mem | mem
  · rw [(mem_enumFiles.mp mem).2]
    exact (purpose.fileName_ne_enums model).symm
  · rw [name_of_mem_barrels (mem_barrelFiles.mp mem).2]
    exact (purpose.fileName_ne_barrel model).symm

/-! ## Keys of a run -/

/-- The keys of a run are distinct exactly if no two models of the run share
folder and kebab case.  The files that hold no class have distinct keys in any
case, and none of them has the key of a class file. -/
theorem keys_nodup_iff (run : generator.generate models = .ok files) :
    ((files.map File.key).Nodup ↔
      models.Pairwise fun a b =>
        ¬(generator.folder a.name = generator.folder b.name ∧
          Text.kebab a.name = Text.kebab b.name)) ∧
    ((files.filter fun file => !file.holdsClass).map File.key).Nodup ∧
    ∀ file ∈ files, ∀ other ∈ files,
      file.holdsClass = false → other.holdsClass = true → file.key ≠ other.key := by
  have fixed := generator.nodup_keys_of_fixed models
  refine ⟨?_, filter_holdsClass run ▸ fixed, ?_⟩
  · rw [(keys_of_generate run).nodup_iff, List.nodup_append, nodup_flatMap_classKeys_iff]
    refine ⟨fun h => h.2.1, fun different => ⟨fixed, different, ?_⟩⟩
    rintro _ ofFixed _ ofClass rfl
    obtain ⟨file, mem, eq⟩ := List.mem_map.mp ofFixed
    obtain ⟨model, -, inKeys⟩ := List.mem_flatMap.mp ofClass
    obtain ⟨purpose, -, eq'⟩ := List.mem_map.mp inKeys
    exact fixed_name_ne_fileName mem model.name purpose (congrArg Prod.snd (eq.trans eq'.symm))
  · intro file mem other mem' noClass isClass eq
    have isFixed : file ∈ generator.enumFiles ++ generator.barrelFiles models := by
      rw [← filter_holdsClass run]
      exact List.mem_filter.mpr ⟨mem, by simp [noClass]⟩
    rcases (mem_files run).mp mem' with h | ⟨model, -, purpose, cls, -, rfl⟩ | h
    · rw [(mem_enumFiles.mp h).2] at isClass
      cases isClass
    · exact fixed_name_ne_fileName isFixed model.name purpose (congrArg Prod.snd eq)
    · rw [holdsClass_of_mem_barrelFiles h] at isClass
      cases isClass

/-- A generator with a model in a subfolder of its own name, one in a named subfolder,
and a domain that is called like the module of enumerations. -/
def shop : Generator :=
  .ofEnums
    { layout := .domain
      domainMapping := some (.ofList
        [("User", "users/account"), ("Profile", "users"), ("Role", "enums/role")]) }
    [⟨"Status", ["OPEN", "SHUT"]⟩]

/-- Two models whose names differ in letter case only take each other's files. -/
theorem shop_keys_collide : ∃ files,
    shop.generate [{ name := "Post" }, { name := "User" }, { name := "post" }] = .ok files ∧
      ¬(files.map File.key).Nodup := by
  obtain ⟨files, run⟩ : ∃ files,
      shop.generate [{ name := "Post" }, { name := "User" }, { name := "post" }] = .ok files :=
    ⟨_, rfl⟩
  refine ⟨files, run, fun distinct => ?_⟩
  have apart := (keys_nodup_iff run).1.mp distinct
  exact absurd apart (by decide)

end Generator

end SchemaDto
