/-
# Modules and barrels

A run consists of its modules, which are the file of enumerations and the class files,
and of its barrels.  Only the modules can fail, and no module is called like a barrel:
leaving the barrels out of a run leaves its modules (`map_filter_generate`).
-/
import SchemaDto.Proofs.Output.Keys

namespace SchemaDto

/-- The file is a barrel. -/
def File.isBarrel (file : File) : Bool := file.name == barrelFileName

namespace Generator

variable {generator : Generator} {models : List Model} {files : List File}

/-- The files of a run other than its barrels. -/
def modules (generator : Generator) (models : List Model) : Except UnknownEnum (List File) :=
  (models.mapM generator.modelFiles).map fun classes => generator.enumFiles ++ classes.flatten

theorem generate_eq_map (generator : Generator) (models : List Model) :
    generator.generate models =
      (generator.modules models).map (· ++ generator.barrelFiles models) := by
  rw [generate, modules]
  cases models.mapM generator.modelFiles with
  | error error => rfl
  | ok classes => rfl

theorem isBarrel_of_mem_modules (run : generator.modules models = .ok files) {file : File}
    (mem : file ∈ files) : file.isBarrel = false := by
  obtain ⟨classes, h, rfl⟩ := map_eq_ok_iff.mp run
  rcases List.mem_append.mp mem with ofEnums | ofClasses
  · rw [(mem_enumFiles.mp ofEnums).2]
    exact (by decide : (enumsFileName == barrelFileName) = false)
  · obtain ⟨ofModel, inClasses, inModel⟩ := List.mem_flatten.mp ofClasses
    obtain ⟨model, -, step⟩ := (mem_of_mapM_eq_ok h).mp inClasses
    obtain ⟨purpose, cls, -, rfl⟩ := (mem_modelFiles step).mp inModel
    exact beq_eq_false_iff_ne.mpr (purpose.fileName_ne_barrel model.name)

theorem isBarrel_of_mem_barrelFiles {file : File} (mem : file ∈ generator.barrelFiles models) :
    file.isBarrel = true :=
  beq_iff_eq.mpr (name_of_mem_barrels (mem_barrelFiles.mp mem).2)

/-- Leaving the barrels out leaves the modules, in order. -/
theorem map_filter_generate (generator : Generator) (models : List Model) :
    (generator.generate models).map (List.filter fun file => !file.isBarrel) =
      generator.modules models := by
  rw [generate_eq_map]
  cases outcome : generator.modules models with
  | error error => rfl
  | ok files =>
      have kept : files.filter (fun file => !file.isBarrel) = files := by
        refine List.filter_eq_self.mpr fun file mem => ?_
        rw [isBarrel_of_mem_modules outcome mem]
        rfl
      have left : (generator.barrelFiles models).filter (fun file => !file.isBarrel) = [] := by
        refine List.filter_eq_nil_iff.mpr fun file mem => ?_
        rw [isBarrel_of_mem_barrelFiles mem]
        exact Bool.false_ne_true
      show Except.ok ((files ++ generator.barrelFiles models).filter fun file => !file.isBarrel) =
        .ok files
      rw [List.filter_append, kept, left, List.append_nil]

end Generator

end SchemaDto
