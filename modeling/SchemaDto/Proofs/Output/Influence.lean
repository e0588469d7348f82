/-
# What a run depends on

Of the settings, a run depends on whether barrels are written, on the layout, on the
omitted fields and, in the domain layout, on the domain mapping.  Settings that agree on
these give the same files or the same error, whatever the other options hold; and
without barrels a run gives the same files but for the barrels.  Of the resolved models,
it depends on their names and on their fields, apart from the values of enumerations,
the presence of defaults, and the names and cardinalities of relations
(`run_ignores_inert`).
-/
import SchemaDto.Proofs.Output.Modules
import SchemaDto.Request

namespace SchemaDto

/-- The settings agree on what the modules of a run and the content of its barrels
depend on. -/
structure Settings.Alike (settings other : Settings) : Prop where
  layout : settings.layout = other.layout
  omitFields : settings.omitFields = other.omitFields
  /-- The flat layout does not look at the mapping. -/
  domainMapping : settings.layout = .domain → settings.domainMapping = other.domainMapping

namespace Generator

/-! ## Settings -/

section Settings

variable {settings other : Settings} (alike : settings.Alike other) (catalogue : Catalogue)

include alike

theorem folder_of_alike (model : String) :
    folder ⟨settings, catalogue⟩ model = folder ⟨other, catalogue⟩ model := by
  cases layout : settings.layout with
  | flat => rw [folder_flat layout, folder_flat (alike.layout ▸ layout)]
  | domain =>
      rw [folder_domain layout, folder_domain (alike.layout ▸ layout), placement, placement,
        alike.domainMapping layout]

theorem modelFiles_of_alike (model : Model) :
    modelFiles ⟨settings, catalogue⟩ model = modelFiles ⟨other, catalogue⟩ model := by
  have omitted : settings.omitted model.name = other.omitted model.name := by
    rw [Settings.omitted, Settings.omitted, alike.omitFields]
  simp only [modelFiles, classFile, omitted, folder_of_alike alike catalogue]

theorem modules_of_alike (models : List Model) :
    modules ⟨settings, catalogue⟩ models = modules ⟨other, catalogue⟩ models := by
  rw [modules, modules, funext (modelFiles_of_alike alike catalogue)]
  rfl

theorem barrels_of_alike (names : List String) :
    barrels ⟨settings, catalogue⟩ names = barrels ⟨other, catalogue⟩ names := by
  cases layout : settings.layout with
  | flat =>
      rw [barrels_flat layout, barrels_flat (alike.layout ▸ layout)]
      rfl
  | domain =>
      have placed : placement ⟨settings, catalogue⟩ = placement ⟨other, catalogue⟩ := by
        rw [placement, placement, alike.domainMapping layout]
      rw [barrels_domain layout, barrels_domain (alike.layout ▸ layout), domainRoot, domainRoot,
        unbucketed, unbucketed, placed]
      rfl

theorem generate_of_alike (emit : settings.emitBarrel = other.emitBarrel) (models : List Model) :
    generate ⟨settings, catalogue⟩ models = generate ⟨other, catalogue⟩ models := by
  rw [generate_eq_map, generate_eq_map, modules_of_alike alike, barrelFiles, barrelFiles,
    barrels_of_alike alike, emit]

/-- Without barrels a run gives what it gives with barrels, but for these. -/
theorem generate_without_barrels (silent : other.emitBarrel = false) (models : List Model) :
    generate ⟨other, catalogue⟩ models =
      (generate ⟨settings, catalogue⟩ models).map (List.filter fun file => !file.isBarrel) := by
  have none : barrelFiles ⟨other, catalogue⟩ models = [] := if_neg (by simp [silent])
  rw [map_filter_generate, modules_of_alike alike, generate_eq_map, none]
  cases modules ⟨other, catalogue⟩ models with
  | error error => rfl
  | ok files => exact congrArg Except.ok (List.append_nil files)

end Settings

end Generator

/-! ## Resolved models -/

/-- The field without what a run does not look at. -/
def Field.core (field : Field) : Field :=
  { field with hasDefault := false, relationName := none, cardinality := none, enumValues := none }

/-- The model without what a run does not look at. -/
def Model.core (model : Model) : Model :=
  ⟨model.name, model.fields.map Field.core, []⟩

namespace Catalogue

variable (catalogue : Catalogue)

theorem typing_core (field : Field) : catalogue.typing field.core = catalogue.typing field := rfl

theorem classFile_core (name : String) (fields : List Field) (readOnly : Bool)
    (folder : Option String) : catalogue.classFile name (fields.map Field.core) readOnly folder =
      catalogue.classFile name fields readOnly folder := by
  have typed : catalogue.typings (fields.map Field.core) = catalogue.typings fields := by
    rw [typings, List.mapM_map]
    exact congrArg (fields.mapM ·) (funext catalogue.typing_core)
  have imported (typings : List Typing) :
      importsOf (fields.map Field.core) typings folder = importsOf fields typings folder := by
    rw [importsOf, importsOf, validatorNames, validatorNames, List.any_map]
    rfl
  have paired (typings : List Typing) : typings.zip (fields.map Field.core) =
      (typings.zip fields).map (Prod.map id Field.core) := List.zip_map_right
  simp only [classFile, typed, imported, paired, List.map_map]
  rfl

end Catalogue

namespace Generator

variable (generator : Generator)

theorem modelFiles_core (model : Model) :
    generator.modelFiles model.core = generator.modelFiles model := by
  have created (omitted : List String) :
      model.core.createFields omitted = (model.createFields omitted).map Field.core :=
    List.filter_map
  have read (omitted : List String) :
      model.core.readFields omitted = (model.readFields omitted).map Field.core :=
    List.filter_map
  simp only [modelFiles, Catalogue.createClass, Catalogue.readClass, created, read,
    Catalogue.classFile_core]
  rfl

theorem generate_core (models : List Model) :
    generator.generate (models.map Model.core) = generator.generate models := by
  have names : (models.map Model.core).map (·.name) = models.map (·.name) := by
    rw [List.map_map]
    rfl
  have files : (models.map Model.core).mapM generator.modelFiles =
      models.mapM generator.modelFiles := by
    rw [List.mapM_map]
    exact congrArg (models.mapM ·) (funext generator.modelFiles_core)
  rw [generate, generate, files, names]

end Generator

/-! ## Requests -/

/-- Options whose texts agree under three keys give settings that are alike, whatever
they hold under any other key. -/
theorem Options.alike_of_texts {options other : Options}
    (layout : options.text? "folderStructure" = other.text? "folderStructure")
    (omitted : options.text? "omitFields" = other.text? "omitFields")
    (mapping : options.text? "domainMapping" = other.text? "domainMapping") :
    options.settings.Alike other.settings where
  layout := congrArg (fun text => (text.bind (readName Layout.names)).getD .flat) layout
  omitFields := congrArg (·.bind (readJson Settings.listRecord)) omitted
  domainMapping _ := congrArg (·.bind (readJson Settings.textRecord)) mapping

namespace Request

/-- Of options, a run looks at what alike settings share and at whether barrels are
written: where both or neither asks for barrels, the outcome is the same, and where the
second asks for none, its outcome is that of the first without the barrels.  Of models,
it looks at their cores. -/
theorem run_ignores_inert (document : Document) :
    (∀ options other : Options, options.settings.Alike other.settings →
      (options.settings.emitBarrel = other.settings.emitBarrel →
        run ⟨document, options⟩ = run ⟨document, other⟩) ∧
      (other.settings.emitBarrel = false →
        run ⟨document, other⟩ =
          (run ⟨document, options⟩).map (List.filter fun file => !file.isBarrel))) ∧
    ∀ (generator : Generator) (models models' : List Model),
      models.map Model.core = models'.map Model.core →
        generator.generate models = generator.generate models' := by
  refine ⟨fun options other alike => ⟨fun emit => ?_, fun silent => ?_⟩,
    fun generator models models' cores => ?_⟩
  · exact Generator.generate_of_alike alike _ emit _
  · exact Generator.generate_without_barrels alike _ silent _
  · rw [← generator.generate_core models, cores, generator.generate_core]

/-- A document with a model that refers to an enumeration. -/
def helpdesk : Document where
  models :=
    [{ name := "Ticket"
       fields := [{ name := "status", kind := .enumeration, type := "Status" }] }]
  enums := [⟨"Status", ["OPEN", "SHUT"]⟩]

/-- Options without effect in the flat layout, one of them unknown. -/
def quietOptions : Options :=
  .ofList [("relations", .single "nested"), ("clean", .single "true"),
    ("domainMapping", .single "\x7b\"Ticket\":\"support\"\x7d"), ("provider", .single "dto")]

/-- No barrels, and another way to represent relations. -/
def silentOptions : Options :=
  .ofList [("emitBarrel", .repeated ["false", "true"]), ("relations", .single "omit")]

theorem helpdesk_quiet_and_silent :
    quietOptions.settings ≠ Options.settings .empty ∧
    run ⟨helpdesk, quietOptions⟩ = run ⟨helpdesk, .empty⟩ ∧
    run ⟨helpdesk, silentOptions⟩ =
      (run ⟨helpdesk, .empty⟩).map (List.filter fun file => !file.isBarrel) ∧
    ∀ generator : Generator, generator.generate helpdesk.resolve.models =
      generator.generate
        [{ name := "Ticket"
           fields := [{ name := "status", type := "Status", isOptional := true
                        enumName := some "Status", hasDefault := true }] }] := by
  obtain ⟨settings, models⟩ := run_ignores_inert helpdesk
  have quiet : quietOptions.settings.Alike (Options.settings .empty) :=
    ⟨by decide, by decide, fun domain => absurd domain (by decide)⟩
  have silent : (Options.settings .empty).Alike silentOptions.settings :=
    Options.alike_of_texts (by decide) (by decide) (by decide)
  exact ⟨by decide, (settings _ _ quiet).1 (by decide), (settings _ _ silent).2 (by decide),
    fun generator => models generator _ _ (by decide)⟩

end Request

end SchemaDto
