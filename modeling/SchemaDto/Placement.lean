/-
# Placement of models

A domain mapping gives models a path of the form `domain/subfolder`.  The path
decides the bucket of the model: its first segment is the domain, its second
one the subfolder, and the rest of it does not count.  The models of a run are
grouped by domain and subfolder, as the folders of the domain layout hold them.
-/
import SchemaDto.Order.Dict
import SchemaDto.Settings.Basic
import SchemaDto.Text.Case

namespace SchemaDto

/-! ## Buckets -/

/-- The place of a model: a subfolder of a domain. -/
structure Bucket where
  domain : String
  subfolder : String
deriving DecidableEq, Repr

namespace Bucket

/-- The folder, from the output root. -/
def path (bucket : Bucket) : String :=
  bucket.domain ++ "/" ++ bucket.subfolder

/-- The subfolder that the segments after the domain name; it defaults to the
kebab case of the model's name. -/
def subfolderOf (model : String) : List String → String
  | [] => Text.kebab model
  | segment :: _ => if segment = "" then Text.kebab model else segment

/-- The bucket of a model with that path.  A path without a domain has none. -/
def ofPath? (model path : String) : Option Bucket :=
  match Text.segments path with
  | [] => none
  | domain :: rest => if domain = "" then none else some ⟨domain, subfolderOf model rest⟩

end Bucket

/-! ## Paths of models -/

/-- The paths of models. -/
structure Placement where
  paths : Dict String
deriving DecidableEq, Repr

namespace Placement

/-- The placement of a domain mapping; without one no model has a bucket. -/
def ofMapping (mapping : Option (Dict String)) : Placement :=
  ⟨mapping.getD .empty⟩

/-- The bucket of a model. -/
def bucket? (placement : Placement) (model : String) : Option Bucket :=
  (placement.paths.get? model).bind (Bucket.ofPath? model)

/-- The models with a bucket, in ascending order. -/
def bucketed (placement : Placement) : List (String × Bucket) :=
  placement.paths.entries.filterMap fun (model, path) =>
    (Bucket.ofPath? model path).map fun bucket => (model, bucket)

/-- The domains, in ascending order. -/
def domains (placement : Placement) : List String :=
  ascending (placement.bucketed.map (·.2.domain))

/-- The models in a domain with their buckets, in ascending order. -/
def inDomain (placement : Placement) (domain : String) : List (String × Bucket) :=
  placement.bucketed.filter (·.2.domain == domain)

/-- The models in a domain, in ascending order. -/
def models (placement : Placement) (domain : String) : List String :=
  (placement.inDomain domain).map (·.1)

/-- One remark for each path without a domain, in ascending order of models. -/
def warnings (placement : Placement) : List Warning :=
  placement.paths.entries.filterMap fun (model, path) =>
    if (Bucket.ofPath? model path).isNone then some (.noDomain model path) else none

end Placement

/-! ## Groups -/

/-- A subfolder of a domain and its models. -/
structure Subfolder where
  name : String
  models : List String
deriving DecidableEq, Repr

/-- A domain and its subfolders. -/
structure DomainFolder where
  name : String
  subfolders : List Subfolder
deriving DecidableEq, Repr

/-- Puts a model last in its subfolder; a new subfolder comes last. -/
def Subfolder.add (subfolder model : String) : List Subfolder → List Subfolder
  | [] => [⟨subfolder, [model]⟩]
  | group :: rest =>
    if group.name = subfolder then ⟨group.name, group.models ++ [model]⟩ :: rest
    else group :: add subfolder model rest

/-- The subfolders of models with their buckets, in order of first use. -/
def Subfolder.ofBucketed (bucketed : List (String × Bucket)) : List Subfolder :=
  bucketed.foldl (fun groups (model, bucket) => add bucket.subfolder model groups) []

namespace Placement

/-- The subfolders of one domain that hold generated models. -/
def subfolders (placement : Placement) (generated : List String) (domain : String) :
    List Subfolder :=
  Subfolder.ofBucketed ((placement.inDomain domain).filter fun entry => generated.contains entry.1)

/-- The domains that hold generated models, in ascending order. -/
def groups (placement : Placement) (generated : List String) : List DomainFolder :=
  (placement.domains.map fun domain => ⟨domain, placement.subfolders generated domain⟩).filter
    fun group => !group.subfolders.isEmpty

end Placement

end SchemaDto
