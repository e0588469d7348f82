/-
# The layout moves files and keeps classes

The flat layout and the domain layout write the same classes (`layouts_agree`): the two
runs fail with the same error, or their modules stand in the same order under the same
names.  The folder of a model has an influence on one place of its class files only,
which is where the line that imports enumerations imports them from.
-/
import SchemaDto.Proofs.Agreement
import SchemaDto.Proofs.Emit.Fields
import SchemaDto.Proofs.Output.Modules

namespace SchemaDto

/-! ## The line that imports them -/

/-- The texts differ in one line at most: it imports names from the module of
enumerations, seen from the output root in the one text, and from the folder in the
other one. -/
def DifferInSource (folder : Option String) (names : List String) (text text' : String) : Prop :=
  ∃ before after,
    text = before ++ "\n" ++ Import.render ⟨names, rootSpecifier none enumsModule⟩ ++ "\n" ++ after ∧
    text' = before ++ "\n" ++ Import.render ⟨names, rootSpecifier folder enumsModule⟩ ++ "\n" ++ after

/-- What stands below the imports of a file. -/
def ClassFile.belowImports (file : ClassFile) : String :=
  "\nexport class " ++ file.name ++ " " ++ file.clause ++ file.body ++ "\n"

/-- The last import stands on a line of its own. -/
theorem ClassFile.render_of_imports {file : ClassFile} {others : List Import} {last : Import}
    (imports : file.imports = others ++ [last]) (ne : others ≠ []) :
    file.render = Import.renderAll others ++ "\n" ++ last.render ++ "\n" ++ file.belowImports := by
  have parts : others.map Import.render ≠ [] := by simpa using ne
  have block : Import.renderAll file.imports =
      Import.renderAll others ++ "\n" ++ last.render := by
    rw [Import.renderAll, imports, List.map_append, List.map_singleton,
      String.intercalate_append_of_ne_nil parts (List.cons_ne_nil _ _),
      String.intercalate_singleton, Import.renderAll]
  have joint : "\n\nexport class " = "\n" ++ "\nexport class " := by decide
  unfold render belowImports
  rw [block, joint]
  simp only [String.append_assoc, -String.reduceAppend]

/-- The imports of a class from packages. -/
def packageImports (fields : List Field) (typings : List Typing) : List Import :=
  [⟨[Presence.required.decorator, Presence.optional.decorator], swaggerSource⟩] ++
    Import.ofNames (validatorNames fields typings) validatorSource

theorem importsOf_without_enums {fields : List Field} {typings : List Typing}
    (none : importedEnums typings = []) (folder folder' : Option String) :
    importsOf fields typings folder = importsOf fields typings folder' := by
  rw [importsOf, importsOf, none]
  rfl

theorem importsOf_with_enums {fields : List Field} {typings : List Typing}
    (some : importedEnums typings ≠ []) (folder : Option String) :
    importsOf fields typings folder = packageImports fields typings ++
      [⟨importedEnums typings, rootSpecifier folder enumsModule⟩] := by
  have last : Import.ofNames (importedEnums typings) (rootSpecifier folder enumsModule) =
      [⟨importedEnums typings, rootSpecifier folder enumsModule⟩] := if_neg (by simpa using some)
  rw [importsOf, last, packageImports]

/-- The class of some fields in the output root and in a folder.  Without enumerations
the two files are the same, and with some they differ in where these come from. -/
theorem Catalogue.agree_classFile (catalogue : Catalogue) (name : String) (fields : List Field)
    (readOnly : Bool) (folder : Option String) :
    Agree (fun cls cls' =>
        (folder = none ∨ ascending (fields.filterMap (·.enumName)) = [] → cls' = cls) ∧
        (ascending (fields.filterMap (·.enumName)) ≠ [] →
          DifferInSource folder (ascending (fields.filterMap (·.enumName))) cls.render cls'.render))
      (catalogue.classFile name fields readOnly none)
      (catalogue.classFile name fields readOnly folder) := by
  refine Agree.map_iff.mpr (Agree.of_self fun typings typed => ?_)
  rw [← importedEnums_of_typings typed]
  constructor
  · rintro (rfl | noEnums)
    · rfl
    · rw [importsOf_without_enums noEnums folder none]
  · intro enums
    have packages : packageImports fields typings ≠ [] := List.cons_ne_nil _ _
    exact ⟨_, _, ClassFile.render_of_imports (importsOf_with_enums enums none) packages,
      ClassFile.render_of_imports (importsOf_with_enums enums folder) packages⟩

namespace Generator

/-! ## The two layouts -/

/-- The generator with the files laid out like this. -/
def inLayout (generator : Generator) (layout : Layout) : Generator :=
  ⟨{ generator.settings with layout := layout }, generator.catalogue⟩

/-- The fields that a class lists.  An updating class has none of its own. -/
def listedFields (generator : Generator) (model : Model) : Purpose → List Field
  | .create => model.createFields (generator.settings.omitted model.name)
  | .update => []
  | .read => model.readFields (generator.settings.omitted model.name)

/-- The enumerations that a class refers to, in ascending order. -/
def usedEnums (generator : Generator) (model : Model) (purpose : Purpose) : List String :=
  ascending ((generator.listedFields model purpose).filterMap (·.enumName))

/-- The class of a model in the flat layout and in the domain layout. -/
structure Relocated (generator : Generator) (model : Model) (purpose : Purpose)
    (cls cls' : ClassFile) : Prop where
  flat : (generator.inLayout .flat).classOf model purpose = .ok cls
  domain : (generator.inLayout .domain).classOf model purpose = .ok cls'
  /-- A class without enumerations is the same in both, and so is one of a model without
  a bucket. -/
  same : generator.placement.bucket? model.name = none ∨
    generator.usedEnums model purpose = [] → cls' = cls
  /-- With enumerations the texts differ in where these are imported from. -/
  source : generator.usedEnums model purpose ≠ [] →
    DifferInSource ((generator.placement.bucket? model.name).map Bucket.path)
      (generator.usedEnums model purpose) cls.render cls'.render

/-- A module in the flat layout and in the domain layout. -/
inductive Relaid (generator : Generator) (models : List Model) : File → File → Prop
  | enums : Relaid generator models ⟨none, enumsFileName, .enums generator.catalogue⟩
      ⟨none, enumsFileName, .enums generator.catalogue⟩
  | classes {model : Model} {purpose : Purpose} {cls cls' : ClassFile} : model ∈ models →
      Relocated generator model purpose cls cls' →
      Relaid generator models ⟨none, purpose.fileName model.name, .classes cls⟩
        ⟨(generator.placement.bucket? model.name).map Bucket.path, purpose.fileName model.name,
          .classes cls'⟩

variable (generator : Generator)

/-- An updating class names the creating class beside it, and nothing else. -/
theorem relocated_update (model : Model) : Relocated generator model .update
    (updateClass model.name) (updateClass model.name) where
  flat := rfl
  domain := rfl
  same _ := rfl
  source some := absurd rfl some

theorem agree_classOf (model : Model) (purpose : Purpose) :
    Agree (Relocated generator model purpose)
      ((generator.inLayout .flat).classOf model purpose)
      ((generator.inLayout .domain).classOf model purpose) := by
  -- a creating or reading class is the class of its listed fields in two folders
  have listing (name : String) (readOnly : Bool) := generator.catalogue.agree_classFile name
    (generator.listedFields model purpose) readOnly
    ((generator.placement.bucket? model.name).map Bucket.path)
  simp only [Option.map_eq_none_iff] at listing
  cases purpose with
  | create =>
      exact (listing (Purpose.create.className model.name) false).attach.imp
        fun cls cls' ⟨flat, domain, same, source⟩ => ⟨flat, domain, same, source⟩
  | update => exact .ok (relocated_update generator model)
  | read =>
      exact (listing (Purpose.read.className model.name) true).attach.imp
        fun cls cls' ⟨flat, domain, same, source⟩ => ⟨flat, domain, same, source⟩

variable {models : List Model}

theorem agree_modelFiles {model : Model} (mem : model ∈ models) :
    Agree (List.Forall₂ (Relaid generator models))
      ((generator.inLayout .flat).modelFiles model)
      ((generator.inLayout .domain).modelFiles model) := by
  refine (agree_classOf generator model .create).bind fun create create' created => ?_
  refine (agree_classOf generator model .read).bind fun read read' isRead => ?_
  exact .ok (.cons (.classes mem created) (.cons (.classes mem (relocated_update generator model))
    (.cons (.classes mem isRead) .nil)))

theorem agree_modules (models : List Model) :
    Agree (List.Forall₂ (Relaid generator models)) ((generator.inLayout .flat).modules models)
      ((generator.inLayout .domain).modules models) := by
  have enums : List.Forall₂ (Relaid generator models) generator.enumFiles generator.enumFiles := by
    refine List.forall₂_same.mpr fun file mem => ?_
    rw [(mem_enumFiles.mp mem).2]
    exact .enums
  have classes := Agree.mapM fun model (mem : model ∈ models) => agree_modelFiles generator mem
  exact Agree.map_iff.mpr (classes.imp fun _ _ related =>
    List.rel_append enums (List.rel_flatten related))

/-- The two layouts fail with the same error, or they write the same modules in the same
order: under the same names, with the same enumerations, and with classes that differ
at most in where they import their enumerations from. -/
theorem layouts_agree (generator : Generator) (models : List Model) :
    Agree (fun files files' => List.Forall₂ (Relaid generator models)
        (files.filter fun file => !file.isBarrel) (files'.filter fun file => !file.isBarrel))
      ((generator.inLayout .flat).generate models)
      ((generator.inLayout .domain).generate models) := by
  refine Agree.map_iff.mp ?_
  rw [map_filter_generate, map_filter_generate]
  exact agree_modules generator models

end Generator

end SchemaDto
