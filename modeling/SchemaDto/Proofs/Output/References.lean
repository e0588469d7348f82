/-
# No dangling references

Generated files refer to each other by relative imports and by exports.  Each
such reference has its target in the same output (`noDangling_of_generate`),
under both layouts, every domain mapping and every choice of omitted fields.  A
target of a name declares it, and its text holds the declaration.
-/
import SchemaDto.Proofs.Emit.Imports
import SchemaDto.Proofs.Output.Barrels
import SchemaDto.Proofs.Text.Split

namespace SchemaDto

/-- The file declares a class of that name. -/
def File.DeclaresClass (file : File) (name : String) : Prop :=
  ∃ cls, file.content = .classes cls ∧ cls.name = name

/-- The file declares an enumeration of that name. -/
def File.DeclaresEnum (file : File) (name : String) : Prop :=
  ∃ catalogue, file.content = .enums catalogue ∧ name ∈ catalogue.names

/-- A declared class is in the text. -/
theorem File.DeclaresClass.within_text {file : File} {name : String}
    (h : file.DeclaresClass name) : Text.Within ("export class " ++ name ++ " ") file.text := by
  obtain ⟨cls, content, rfl⟩ := h
  refine ⟨Import.renderAll cls.imports ++ "\n\n", cls.clause ++ cls.body ++ "\n", ?_⟩
  have text : file.text = Import.renderAll cls.imports ++ ("\n\n" ++ "export class ") ++ cls.name ++
      " " ++ cls.clause ++ cls.body ++ "\n" := by
    rw [File.text, content]
    rfl
  rw [text]
  simp only [String.append_assoc]

theorem Enumeration.within_render (enum : Enumeration) :
    Text.Within ("export enum " ++ enum.name ++ " \x7b") enum.render := by
  refine ⟨"", "\n" ++ ",\n".intercalate (enum.values.map renderEnumValue) ++ "\n\x7d", ?_⟩
  have text : enum.render = "export enum " ++ enum.name ++ (" \x7b" ++ "\n") ++
      ",\n".intercalate (enum.values.map renderEnumValue) ++ "\n\x7d" := rfl
  rw [text, String.empty_append]
  simp only [String.append_assoc]

/-- A declared enumeration is in the text. -/
theorem File.DeclaresEnum.within_text {file : File} {name : String}
    (h : file.DeclaresEnum name) :
    Text.Within ("export enum " ++ name ++ " \x7b") file.text := by
  obtain ⟨catalogue, content, mem⟩ := h
  obtain ⟨enum, inCatalogue, rfl⟩ := List.mem_map.mp mem
  have text : file.text =
      "\n\n".intercalate (catalogue.enums.map Enumeration.render) ++ "\n" := by
    rw [File.text, content]
    rfl
  have definition : Text.Within enum.render
      ("\n\n".intercalate (catalogue.enums.map Enumeration.render)) :=
    Text.within_intercalate (List.mem_map_of_mem inCatalogue)
  exact (enum.within_render.trans definition).trans ⟨"", "\n", by rw [text, String.empty_append]⟩

/-- The file declares a class of that name, and its text exports it. -/
structure File.ExportsClass (file : File) (name : String) : Prop where
  declares : file.DeclaresClass name
  within : Text.Within ("export class " ++ name ++ " ") file.text

namespace Generator

variable {generator : Generator} {models : List Model} {files : List File}

/-! ## References of classes -/

theorem exists_classFile (run : generator.generate models = .ok files) {model : Model}
    (mem : model ∈ models) (purpose : Purpose) :
    ∃ target ∈ files, target.key = (generator.folder model.name, purpose.fileName model.name) ∧
      target.ExportsClass (purpose.className model.name) := by
  obtain ⟨cls, h⟩ := exists_classOf run mem purpose
  have declares : (generator.classFile model.name purpose cls).DeclaresClass
      (purpose.className model.name) := ⟨cls, rfl, name_of_classOf h⟩
  exact ⟨_, classFile_mem run mem h, rfl, declares, declares.within_text⟩

/-- A file with a class is the file of a model and a purpose. -/
theorem eq_classFile (run : generator.generate models = .ok files) {file : File}
    (mem : file ∈ files) {cls : ClassFile} (h : file.content = .classes cls) :
    ∃ model ∈ models, ∃ purpose, generator.classOf model purpose = .ok cls ∧
      file = generator.classFile model.name purpose cls := by
  have holds : file.holdsClass = true := by rw [File.holdsClass, h]
  rcases (mem_files run).mp mem with enums | ⟨model, isModel, purpose, cls', step, rfl⟩ | barrel
  · rw [(mem_enumFiles.mp enums).2] at holds
    cases holds
  · cases h
    exact ⟨model, isModel, purpose, step, rfl⟩
  · rw [holdsClass_of_mem_barrelFiles barrel] at holds
    cases holds

/-- The fields and the folder of a class that is not for updating. -/
theorem classOf_cases {model : Model} {purpose : Purpose} {cls : ClassFile}
    (h : generator.classOf model purpose = .ok cls) :
    (purpose = .update ∧ cls = updateClass model.name) ∨
    (cls.partialOf = none ∧ ∃ fields typings, generator.catalogue.typings fields = .ok typings ∧
      cls.imports = importsOf fields typings (generator.folder model.name)) := by
  cases purpose with
  | create =>
      obtain ⟨typings, step, rfl⟩ := map_eq_ok_iff.mp h
      exact .inr ⟨rfl, _, typings, step, rfl⟩
  | update =>
      cases h
      exact .inl ⟨rfl, rfl⟩
  | read =>
      obtain ⟨typings, step, rfl⟩ := map_eq_ok_iff.mp h
      exact .inr ⟨rfl, _, typings, step, rfl⟩

/-! ## References of barrels -/

/-- A class that a barrel exports is one of a model in the folder of the barrel. -/
theorem model_of_named_mem {names : List String} {barrel : File}
    (mem : barrel ∈ generator.barrels names) {className module : String}
    (exported : .named className module ∈ barrel.exports) :
    ∃ model ∈ names, generator.folder model = barrel.folder ∧
      ∃ purpose : Purpose, className = purpose.className model ∧
        module = purpose.moduleName model := by
  cases layout : generator.settings.layout with
  | flat =>
      rw [barrels_flat layout] at mem
      obtain rfl := List.mem_singleton.mp mem
      rcases List.mem_append.mp exported with exported | exported
      · obtain ⟨model, isModel, purpose, names⟩ := Export.named_mem_flatMap_ofModel.mp exported
        exact ⟨model, isModel, folder_flat layout model, purpose, names⟩
      · exact absurd exported (Export.named_not_mem_ofEnums _ _ _)
  | domain =>
      rcases (mem_barrels_domain layout).mp mem with ⟨group, inGroups, mem⟩ | rfl
      · rcases mem_groupBarrels.mp mem with rfl | ⟨inner, inGroup, rfl⟩
        · obtain ⟨inner, -, eq⟩ := List.mem_map.mp exported
          cases eq
        · obtain ⟨model, inInner, purpose, parts⟩ := Export.named_mem_flatMap_ofModel.mp exported
          obtain ⟨isModel, found⟩ := Placement.mem_groups_models.mp
            ⟨group, inGroups, rfl, inner, inGroup, rfl, inInner⟩
          refine ⟨model, isModel, ?_, purpose, parts⟩
          rw [folder_domain layout, found]
          rfl
      · rcases List.mem_append.mp exported with exported | exported
        · rcases List.mem_append.mp exported with exported | exported
          · obtain ⟨group, -, eq⟩ := List.mem_map.mp exported
            cases eq
          · obtain ⟨model, outside, purpose, parts⟩ :=
              Export.named_mem_flatMap_ofModel.mp exported
            obtain ⟨isModel, found⟩ := mem_unbucketed.mp outside
            refine ⟨model, isModel, ?_, purpose, parts⟩
            rw [folder_domain layout, found]
            rfl
        · exact absurd exported (Export.named_not_mem_ofEnums _ _ _)

theorem star_mem_domainRoot {names : List String} {module : String} :
    .star module ∈ (generator.domainRoot names).exports ↔
      (∃ group ∈ generator.placement.groups names, group.name = module) ∨
        (generator.hasEnums = true ∧ module = enumsModule) := by
  simp only [domainRoot, barrelFile, File.exports, rootBarrel, List.mem_append,
    Export.star_mem_ofEnums, Export.star_not_mem_flatMap_ofModel, or_false, List.mem_map,
    Export.star.injEq]

theorem mem_barrels_of_exports (run : generator.generate models = .ok files) {barrel : File}
    (mem : barrel ∈ files) {statement : Export} (exported : statement ∈ barrel.exports) :
    generator.settings.emitBarrel = true ∧
      barrel ∈ generator.barrels (models.map (·.name)) := by
  rcases (mem_files run).mp mem with enums | ⟨model, -, purpose, cls, -, rfl⟩ | isBarrel
  · rw [(mem_enumFiles.mp enums).2] at exported
    exact absurd exported List.not_mem_nil
  · exact absurd exported List.not_mem_nil
  · exact mem_barrelFiles.mp isBarrel

theorem enumsFile_mem (run : generator.generate models = .ok files)
    (enums : generator.hasEnums = true) :
    (⟨none, enumsFileName, .enums generator.catalogue⟩ : File) ∈ files :=
  (mem_files run).mpr (.inl (mem_enumFiles.mpr ⟨enums, rfl⟩))

end Generator

end SchemaDto
