/-
# Where the import of enumerations leads

A class that refers to enumerations imports them from the output root: it goes up once
for each segment of its folder.  Read as a path from that folder, the import leads to
the module of enumerations exactly if no segment of the folder is `.` or `..`
(`leads_to_enums_iff`).  Both count as segments, and neither is a folder to leave.
Domains and subfolders are taken from the domain mapping as they are, so there are runs
whose import leads out of the output.
-/
import SchemaDto.Proofs.Output.References
import SchemaDto.Proofs.Text.Walk

namespace SchemaDto

/-! ## From a folder to the root -/

theorem segments_climb {module : String} (noSlash : '/' ∉ module.toList) (depth : Nat) :
    Text.segments (String.join (List.replicate depth "../") ++ module) =
      List.replicate depth ".." ++ [module] := by
  induction depth with
  | zero =>
      rw [List.replicate_zero, List.replicate_zero, String.join_nil, String.empty_append]
      exact Text.segments_of_not_mem noSlash
  | succ depth ih =>
      have first : String.join (List.replicate (depth + 1) "../") ++ module =
          ".." ++ "/" ++ (String.join (List.replicate depth "../") ++ module) := by
        rw [List.replicate_succ, String.join_cons, String.append_assoc]
        rfl
      rw [first, Text.segments_slash, ih, Text.segments_of_not_mem (by decide),
        List.replicate_succ, List.singleton_append, List.cons_append]

/-- The way to a module of the output root goes up as many times as the folder has
segments. -/
theorem walk_rootSpecifier {module : String} (noSlash : '/' ∉ module.toList)
    (folder : Option String) (place : List String) :
    (Text.segments (rootSpecifier folder module)).foldl Text.follow place =
      Text.follow ((List.replicate (folder.elim 0 folderDepth) "..").foldl Text.follow place)
        module := by
  unfold rootSpecifier
  split
  · next root =>
      have segments : Text.segments ("./" ++ module) = [".", module] := by
        rw [show "./" ++ module = "." ++ "/" ++ module from rfl, Text.segments_slash,
          Text.segments_of_not_mem noSlash, Text.segments_of_not_mem (by decide)]
        rfl
      rw [root, segments, List.foldl_cons, Text.follow_here]
      rfl
  · rw [segments_climb noSlash, List.foldl_append]
    rfl

/-- Followed from a folder, the way to a module of the output root leads there exactly
if every segment of the folder is a folder to leave. -/
theorem normalize_rootSpecifier_iff {module : String} (noSlash : '/' ∉ module.toList)
    (enters : Text.Enters module) (folder : Option String) :
    Text.normalize (childFolder folder (rootSpecifier folder module)) = [module] ↔
      ∀ path ∈ folder, "." ∉ Text.segments path ∧ ".." ∉ Text.segments path := by
  cases folder with
  | none =>
      have here := walk_rootSpecifier noSlash none []
      refine iff_of_true ?_ fun path isFolder => by cases isFolder
      rw [childFolder, Text.normalize, here, Option.elim_none, List.replicate_zero, List.foldl_nil,
        Text.follow_enters enters]
      rfl
  | some path =>
      have walk : Text.normalize (childFolder (some path) (rootSpecifier (some path) module)) =
          (module :: Text.climbed (Text.segments path) []).reverse := by
        rw [childFolder, Text.normalize, Text.segments_slash, List.foldl_append,
          walk_rootSpecifier noSlash, Text.follow_enters enters]
        rfl
      rw [walk, List.reverse_cons, List.append_left_eq_self, List.reverse_eq_nil_iff,
        Text.climbed_iff]
      constructor
      · intro clear path' isFolder
        obtain rfl := Option.some.inj isFolder
        exact clear
      · intro clear
        exact clear path rfl

namespace Generator

variable {generator : Generator} {models : List Model} {files : List File}

/-- The way by which a class that is not for updating imports its enumerations. -/
theorem source_of_relative (run : generator.generate models = .ok files) {file : File}
    (mem : file ∈ files) {cls : ClassFile} (content : file.content = .classes cls)
    (whole : cls.partialOf = none) {statement : Import} (imported : statement ∈ cls.imports)
    (relative : statement.IsRelative) : statement.source = rootSpecifier file.folder enumsModule := by
  obtain ⟨model, -, purpose, step, rfl⟩ := eq_classFile run mem content
  rcases classOf_cases step with ⟨-, rfl⟩ | ⟨-, fields, typings, -, imports⟩
  · cases whole
  · rw [imports] at imported
    rw [eq_of_mem_importsOf imported relative]
    rfl

/-- In every run, the import of enumerations in the file of a creating or a reading class
leads to the module of enumerations in the output root exactly if no segment of the
folder of the file is `.` or `..`. -/
theorem leads_to_enums_iff (run : generator.generate models = .ok files) {file : File}
    (mem : file ∈ files) {cls : ClassFile} (content : file.content = .classes cls)
    (whole : cls.partialOf = none) {statement : Import} (imported : statement ∈ cls.imports)
    (relative : statement.IsRelative) :
    Text.normalize (childFolder file.folder statement.source) = [enumsModule] ↔
      ∀ folder ∈ file.folder, "." ∉ Text.segments folder ∧ ".." ∉ Text.segments folder := by
  rw [source_of_relative run mem content whole imported relative]
  exact normalize_rootSpecifier_iff (by decide) (by decide) file.folder

/-- A generator that places one model in a domain, and one in a folder whose path begins
with a point. -/
def depot : Generator :=
  .ofEnums
    { layout := .domain
      domainMapping := some (.ofList [("Crate", "storage"), ("Shelf", "./shelf")]) }
    [⟨"Status", ["FREE", "TAKEN"]⟩]

/-- A model with a status. -/
def withStatus (name : String) : Model where
  name := name
  fields := [{ name := "status", type := "Status", enumName := some "Status" }]

theorem crate_leads_to_enums : ∃ files, depot.generate [withStatus "Crate"] = .ok files ∧
    ∃ file ∈ files, file.key = (some "storage/crate", "create-crate.dto.ts") ∧
      ∃ cls statement, file.content = .classes cls ∧ statement ∈ cls.imports ∧
        statement = ⟨["Status"], "../../enums"⟩ ∧
        Text.normalize (childFolder file.folder statement.source) = ["enums"] := by
  obtain ⟨files, run⟩ : ∃ files, depot.generate [withStatus "Crate"] = .ok files := ⟨_, rfl⟩
  obtain ⟨cls, step, whole, imported⟩ : ∃ cls,
      depot.classOf (withStatus "Crate") .create = .ok cls ∧ cls.partialOf = none ∧
        ⟨["Status"], "../../enums"⟩ ∈ cls.imports := ⟨_, rfl, rfl, by decide⟩
  have isFile := classFile_mem run (List.mem_singleton_self _) step
  have key : (depot.folder "Crate", Purpose.create.fileName "Crate") =
      (some "storage/crate", "create-crate.dto.ts") := by decide
  have clear : ∀ folder ∈ depot.folder "Crate",
      "." ∉ Text.segments folder ∧ ".." ∉ Text.segments folder := by decide
  have leads := leads_to_enums_iff run isFile rfl whole imported rfl
  exact ⟨files, run, _, isFile, key, cls, _, rfl, imported, rfl, leads.mpr clear⟩

/-- From the folder `./shelf` the import goes up twice, out of the output. -/
theorem shelf_leaves_output : ∃ files, depot.generate [withStatus "Shelf"] = .ok files ∧
    ∃ file ∈ files, file.key = (some "./shelf", "create-shelf.dto.ts") ∧
      ∃ cls statement, file.content = .classes cls ∧ statement ∈ cls.imports ∧
        statement = ⟨["Status"], "../../enums"⟩ ∧
        Text.normalize (childFolder file.folder statement.source) = ["..", "enums"] := by
  obtain ⟨files, run⟩ : ∃ files, depot.generate [withStatus "Shelf"] = .ok files := ⟨_, rfl⟩
  obtain ⟨cls, step, imported⟩ : ∃ cls,
      depot.classOf (withStatus "Shelf") .create = .ok cls ∧
        ⟨["Status"], "../../enums"⟩ ∈ cls.imports := ⟨_, rfl, by decide⟩
  have isFile := classFile_mem run (List.mem_singleton_self _) step
  have key : (depot.folder "Shelf", Purpose.create.fileName "Shelf") =
      (some "./shelf", "create-shelf.dto.ts") := by decide
  have outside : Text.normalize (childFolder (depot.folder "Shelf") "../../enums") =
      ["..", "enums"] := by decide
  exact ⟨files, run, _, isFile, key, cls, _, rfl, imported, rfl, outside⟩

end Generator

end SchemaDto
