/-
# Names of generated classes and modules

A module name tells its purpose (the first letter of the verb) and the model as
far as kebab case does; a class name tells the model once the purpose is known.
Hence the export of a class, also as a line of text, tells purpose and model
(`Export.lineOf_inj`): its last blank ends the class and begins the module.
-/
import SchemaDto.Emit.Barrel
import SchemaDto.Proofs.Text.Kebab
import SchemaDto.Proofs.Text.Split

namespace SchemaDto

/-! ## Modules and files -/

namespace Purpose

theorem mem_all (purpose : Purpose) : purpose ∈ all := by
  cases purpose <;> decide

theorem nodup_all : all.Nodup := by decide

theorem toList_moduleName (purpose : Purpose) (model : String) :
    (purpose.moduleName model).toList =
      purpose.verb.toList ++ '-' :: ((Text.kebab model).toList ++ ".dto".toList) := by
  simp [moduleName]

/-- The verbs are told apart by their first letters, and they hold no hyphen. -/
theorem verb_inj {a b : Purpose} (h : a.verb = b.verb) : a = b :=
  (by decide : ∀ a ∈ all, ∀ b ∈ all, a.verb = b.verb → a = b) a (mem_all a) b (mem_all b) h

theorem hyphen_not_mem_verb (purpose : Purpose) : '-' ∉ purpose.verb.toList :=
  (by decide : ∀ purpose ∈ all, '-' ∉ purpose.verb.toList) purpose (mem_all purpose)

theorem moduleName_inj {a b : Purpose} {model model' : String}
    (h : a.moduleName model = b.moduleName model') :
    a = b ∧ Text.kebab model = Text.kebab model' := by
  have lists := congrArg String.toList h
  rw [toList_moduleName, toList_moduleName] at lists
  obtain ⟨verbs, rest⟩ :=
    Text.split_at_first (hyphen_not_mem_verb a) (hyphen_not_mem_verb b) lists
  exact ⟨verb_inj (String.toList_inj.mp verbs),
    String.toList_inj.mp (List.append_cancel_right rest)⟩

/-- The files of two models have the same name only for the same purpose and
the same kebab case. -/
theorem fileName_inj {a b : Purpose} {model model' : String} :
    a.fileName model = b.fileName model' ↔
      a = b ∧ Text.kebab model = Text.kebab model' := by
  constructor
  · intro h
    exact moduleName_inj ((String.append_left_inj _).mp h)
  · rintro ⟨rfl, eq⟩
    rw [fileName, fileName, moduleName, moduleName, eq]

/-- No class file has one of the fixed names. -/
theorem fileName_ne {name : String} (h : '-' ∉ name.toList) (purpose : Purpose)
    (model : String) : purpose.fileName model ≠ name := by
  rintro rfl
  exact h (by simp [fileName, moduleName])

theorem fileName_ne_barrel (purpose : Purpose) (model : String) :
    purpose.fileName model ≠ barrelFileName :=
  fileName_ne (by decide) purpose model

theorem fileName_ne_enums (purpose : Purpose) (model : String) :
    purpose.fileName model ≠ enumsFileName :=
  fileName_ne (by decide) purpose model

/-! ## Classes -/

theorem className_inj {purpose : Purpose} {model model' : String}
    (h : purpose.className model = purpose.className model') : model = model' := by
  cases purpose with
  | create => exact (String.append_right_inj _).mp ((String.append_left_inj _).mp h)
  | update => exact (String.append_right_inj _).mp ((String.append_left_inj _).mp h)
  | read => exact (String.append_left_inj _).mp h

theorem space_not_mem_moduleName (purpose : Purpose) (model : String) :
    ' ' ∉ (purpose.moduleName model).toList := by
  rw [toList_moduleName]
  have inKebab := Text.space_not_mem_kebab model
  cases purpose <;> simpa [verb] using inKebab

end Purpose

/-! ## Exports of a model -/

namespace Export

theorem mem_ofModel {model className module : String} :
    .named className module ∈ Export.ofModel model ↔
      ∃ purpose : Purpose, className = purpose.className model ∧
        module = purpose.moduleName model := by
  rw [Export.ofModel, List.mem_map]
  constructor
  · rintro ⟨purpose, -, eq⟩
    cases eq
    exact ⟨purpose, rfl, rfl⟩
  · rintro ⟨purpose, rfl, rfl⟩
    exact ⟨purpose, Purpose.mem_all purpose, rfl⟩

theorem named_mem_flatMap_ofModel {names : List String} {className module : String} :
    .named className module ∈ names.flatMap Export.ofModel ↔
      ∃ model ∈ names, ∃ purpose : Purpose, className = purpose.className model ∧
        module = purpose.moduleName model := by
  simp only [List.mem_flatMap, mem_ofModel]

theorem star_not_mem_flatMap_ofModel (names : List String) (module : String) :
    .star module ∉ names.flatMap Export.ofModel := by
  intro mem
  obtain ⟨model, -, mem⟩ := List.mem_flatMap.mp mem
  obtain ⟨purpose, -, eq⟩ := List.mem_map.mp mem
  cases eq

theorem eq_named_of_mem_flatMap_ofModel {names : List String} {statement : Export}
    (mem : statement ∈ names.flatMap Export.ofModel) :
    ∃ className module, statement = .named className module := by
  cases statement with
  | named className module => exact ⟨className, module, rfl⟩
  | star module => exact absurd mem (star_not_mem_flatMap_ofModel names module)

theorem star_mem_ofEnums {hasEnums : Bool} {module : String} :
    .star module ∈ Export.ofEnums hasEnums ↔ hasEnums = true ∧ module = enumsModule := by
  cases hasEnums <;> simp [Export.ofEnums]

theorem named_not_mem_ofEnums (hasEnums : Bool) (className module : String) :
    .named className module ∉ Export.ofEnums hasEnums := by
  cases hasEnums <;> simp [Export.ofEnums]

/-! ## Exports as lines -/

theorem render_named (c m : String) :
    (named c m).render = "export \x7b " ++ c ++ " \x7d from './" ++ m ++ "';" := rfl

theorem render_star (m : String) : (star m).render = "export * from './" ++ m ++ "';" := rfl

theorem toList_render_named (c m : String) :
    (named c m).render.toList =
      ("export \x7b ".toList ++ c.toList ++ " \x7d from".toList) ++
        ' ' :: ("'./".toList ++ m.toList ++ "';".toList) := by
  have joint : " \x7d from './".toList = " \x7d from".toList ++ ' ' :: "'./".toList := by
    decide
  rw [render_named]
  simp only [String.toList_append, joint, List.append_assoc, List.cons_append]

/-- The line of a class export tells class and module: after its last blank
stands the module alone. -/
theorem render_named_inj {c m c' m' : String} (h : ' ' ∉ m.toList) (h' : ' ' ∉ m'.toList)
    (eq : (named c m).render = (named c' m').render) : c = c' ∧ m = m' := by
  have lists := congrArg String.toList eq
  rw [toList_render_named, toList_render_named] at lists
  obtain ⟨classes, modules⟩ :=
    Text.split_at_last (by simpa using h) (by simpa using h') lists
  have classes := List.append_cancel_left (List.append_cancel_right classes)
  have modules := List.append_cancel_left (List.append_cancel_right modules)
  exact ⟨String.toList_inj.mp classes, String.toList_inj.mp modules⟩

/-- No line exports both one class and everything. -/
theorem render_named_ne_star (c m m' : String) :
    (named c m).render ≠ (star m').render := by
  rw [render_named, render_star]
  intro eq
  have lists := congrArg String.toList eq
  simp at lists

/-- The line that exports the class of a model. -/
def lineOf (purpose : Purpose) (model : String) : String :=
  (named (purpose.className model) (purpose.moduleName model)).render

/-- The line of a class export tells purpose and model, whatever the name of
the model is. -/
theorem lineOf_inj {a b : Purpose} {model model' : String}
    (h : lineOf a model = lineOf b model') : a = b ∧ model = model' := by
  obtain ⟨classes, modules⟩ := render_named_inj (Purpose.space_not_mem_moduleName a model)
    (Purpose.space_not_mem_moduleName b model') h
  obtain ⟨rfl, -⟩ := Purpose.moduleName_inj modules
  exact ⟨rfl, Purpose.className_inj classes⟩

theorem render_ofModel (model : String) :
    (ofModel model).map render = Purpose.all.map fun purpose => lineOf purpose model := by
  rw [ofModel, List.map_map]
  rfl

end Export

end SchemaDto
