/-
# The views of a placement agree

A placement is asked for the bucket of a model, for the domains and for the models of a
domain.  All three answers come from the paths of the models: the domain of a model is what
its path holds before the first slash, and its subfolder what stands between the first and
the second one (`ofPath?_eq`).  So every model with a path is found by all three views, in
one and the same domain, or it is what a warning is about (`views_agree`).
-/
import Mathlib.Data.List.Basic
import SchemaDto.Proofs.Placement.Bucket

namespace SchemaDto

open Text

namespace Bucket

theorem subfolderOf_eq (model : String) (segments : List String) :
    subfolderOf model segments =
      if segments.headD "" = "" then kebab model else segments.headD "" := by
  cases segments with
  | nil => rfl
  | cons segment rest => rfl

/-- A path is read up to its second slash: it has a bucket unless it begins with a slash or
is empty. -/
theorem ofPath?_eq (model path : String) : ofPath? model path =
    if beforeSlash path = "" then none
    else some ⟨beforeSlash path,
      if betweenSlashes path = "" then kebab model else betweenSlashes path⟩ := by
  obtain ⟨rest, segments, second⟩ := segments_eq_cons path
  simp only [ofPath?, segments, subfolderOf_eq, second]

theorem ofPath?_eq_some_iff {model path : String} {bucket : Bucket} :
    ofPath? model path = some bucket ↔ beforeSlash path ≠ "" ∧
      bucket.domain = beforeSlash path ∧
      bucket.subfolder = if betweenSlashes path = "" then kebab model else betweenSlashes path := by
  rw [ofPath?_eq]
  by_cases noDomain : beforeSlash path = ""
  · simp [noDomain]
  · rw [if_neg noDomain, Option.some.injEq, and_iff_right noDomain, eq_comm]
    obtain ⟨domain, subfolder⟩ := bucket
    rw [Bucket.mk.injEq]

end Bucket

namespace Placement

variable {placement : Placement} {model domain : String}

/-! ## Each view by itself -/

theorem bucket?_eq_some_iff {bucket : Bucket} : placement.bucket? model = some bucket ↔
    ∃ path, placement.paths.get? model = some path ∧ Bucket.ofPath? model path = some bucket :=
  Option.bind_eq_some_iff

theorem mem_models : model ∈ placement.models domain ↔
    ∃ bucket, placement.bucket? model = some bucket ∧ bucket.domain = domain := by
  simp only [models, List.mem_map, Prod.exists, exists_and_right, exists_eq_right, mem_inDomain]

theorem mem_models_iff_path : model ∈ placement.models domain ↔
    ∃ path, placement.paths.get? model = some path ∧ beforeSlash path = domain ∧ domain ≠ "" := by
  simp only [mem_models, bucket?_eq_some_iff, Bucket.ofPath?_eq_some_iff]
  constructor
  · rintro ⟨bucket, ⟨path, found, named, eq, -⟩, rfl⟩
    exact ⟨path, found, eq.symm, eq ▸ named⟩
  · rintro ⟨path, found, rfl, named⟩
    exact ⟨⟨beforeSlash path, _⟩, ⟨path, found, named, rfl, rfl⟩, rfl⟩

theorem models_pairwise (placement : Placement) (domain : String) :
    (placement.models domain).Pairwise (· < ·) :=
  (bucketed_ascending placement).sublist (List.filter_sublist.map _)

theorem mem_domains_iff_models : domain ∈ placement.domains ↔ placement.models domain ≠ [] := by
  rw [mem_domains]
  constructor
  · rintro ⟨model, bucket, found, eq⟩
    exact List.ne_nil_of_mem (mem_models.mpr ⟨bucket, found, eq⟩)
  · intro used
    obtain ⟨model, mem⟩ := List.exists_mem_of_ne_nil _ used
    exact ⟨model, mem_models.mp mem⟩

/-- A model is in one domain only. -/
theorem disjoint_models {other : String} (ne : domain ≠ other) :
    (placement.models domain).Disjoint (placement.models other) := by
  intro model mem mem'
  obtain ⟨bucket, found, rfl⟩ := mem_models.mp mem
  obtain ⟨bucket', found', rfl⟩ := mem_models.mp mem'
  rw [found] at found'
  cases found'
  exact ne rfl

theorem isSome_bucket?_iff : (placement.bucket? model).isSome = true ↔
    ∃ domain ∈ placement.domains, model ∈ placement.models domain := by
  rw [Option.isSome_iff_exists]
  constructor
  · rintro ⟨bucket, found⟩
    exact ⟨bucket.domain, mem_domains.mpr ⟨model, bucket, found, rfl⟩,
      mem_models.mpr ⟨bucket, found, rfl⟩⟩
  · rintro ⟨domain, -, mem⟩
    obtain ⟨bucket, found, -⟩ := mem_models.mp mem
    exact ⟨bucket, found⟩

/-! ## Models without a bucket -/

/-- The models whose path gives them no bucket, with their paths. -/
def stray (placement : Placement) : List (String × String) :=
  placement.paths.entries.filter fun (model, path) => (Bucket.ofPath? model path).isNone

theorem warnings_eq_map_stray (placement : Placement) :
    placement.warnings = placement.stray.map fun (model, path) => .noDomain model path := by
  rw [warnings, stray, ← List.filterMap_eq_map, List.filterMap_filter]
  refine List.filterMap_congr fun entry _ => ?_
  cases (Bucket.ofPath? entry.1 entry.2).isNone <;> rfl

theorem mem_stray {path : String} : (model, path) ∈ placement.stray ↔
    placement.paths.get? model = some path ∧ placement.bucket? model = none := by
  rw [stray, List.mem_filter, ← Dict.get?_eq_some_iff]
  refine and_congr_right fun found => ?_
  rw [bucket?, found, Option.bind_some, Option.isNone_iff_eq_none]

/-! ## All views -/

/-- The answers of a placement fit together, and with the paths that it was made of. -/
structure ViewsAgree (placement : Placement) : Prop where
  /-- The models of a domain are those with a bucket in it. -/
  models : ∀ model domain, model ∈ placement.models domain ↔
    ∃ bucket, placement.bucket? model = some bucket ∧ bucket.domain = domain
  /-- They are the ones whose path names the domain before its first slash. -/
  paths : ∀ model domain, model ∈ placement.models domain ↔
    ∃ path, placement.paths.get? model = some path ∧ beforeSlash path = domain ∧ domain ≠ ""
  /-- A bucket is what the path of its model holds up to the second slash; the subfolder
  defaults to the name of the model. -/
  bucket : ∀ model bucket, placement.bucket? model = some bucket ↔
    ∃ path, placement.paths.get? model = some path ∧ beforeSlash path ≠ "" ∧
      bucket.domain = beforeSlash path ∧
      bucket.subfolder = if betweenSlashes path = "" then kebab model else betweenSlashes path
  /-- The domains are those that hold a model, in order and each once. -/
  used : ∀ domain, domain ∈ placement.domains ↔ placement.models domain ≠ []
  ascending : placement.domains.Pairwise (· < ·)
  /-- The models of the domains are a partition of the models with a bucket. -/
  inOrder : ∀ domain, (placement.models domain).Pairwise (· < ·)
  disjoint : ∀ domain other, domain ≠ other →
    (placement.models domain).Disjoint (placement.models other)
  covered : ∀ model, (placement.bucket? model).isSome = true ↔
    ∃ domain ∈ placement.domains, model ∈ placement.models domain
  /-- There is one warning for each model that has a path and no bucket. -/
  warned : placement.warnings = placement.stray.map fun (model, path) => .noDomain model path
  stray : ∀ model path, (model, path) ∈ placement.stray ↔
    placement.paths.get? model = some path ∧ placement.bucket? model = none
  strayInOrder : (placement.stray.map (·.1)).Pairwise (· < ·)

/-- The bucket of a model, the domains, the models of a domain and the warnings agree for
every placement, whatever the paths hold. -/
theorem views_agree (placement : Placement) : placement.ViewsAgree where
  models := fun _ _ => mem_models
  paths := fun _ _ => mem_models_iff_path
  bucket := by
    intro model bucket
    simp only [bucket?_eq_some_iff, Bucket.ofPath?_eq_some_iff]
  used := fun _ => mem_domains_iff_models
  ascending := ascending_pairwise _
  inOrder := models_pairwise placement
  disjoint := fun _ _ => disjoint_models
  covered := fun _ => isSome_bucket?_iff
  warned := placement.warnings_eq_map_stray
  stray := fun _ _ => mem_stray
  strayInOrder := placement.paths.keys_ascending.sublist (List.filter_sublist.map _)

/-- Slashes in front, at the end, doubled and surplus. -/
example :
    let placement : Placement := ⟨.ofList [("Cart", "/shop"), ("Item", "shop//old"), ("Note", "/"),
      ("Order", "shop/orders/old/"), ("OrderLine", "shop/")]⟩
    placement.domains = ["shop"] ∧ placement.models "shop" = ["Item", "Order", "OrderLine"] ∧
      ["Item", "Order", "OrderLine"].map placement.bucket? =
        [some ⟨"shop", "item"⟩, some ⟨"shop", "orders"⟩, some ⟨"shop", "order-line"⟩] ∧
      placement.warnings = [.noDomain "Cart" "/shop", .noDomain "Note" "/"] := by
  decide +kernel

end Placement

end SchemaDto
