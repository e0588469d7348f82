/-
# Buckets

What the path of a model says about its bucket: the domain is a name without a
slash, so the folder of a bucket determines the bucket.  The views of a
placement agree on which model has which bucket.
-/
import SchemaDto.Placement
import SchemaDto.Proofs.Order.Dict
import SchemaDto.Proofs.Text.Path

namespace SchemaDto

/-! ## Folders of buckets -/

namespace Bucket

theorem slash_not_mem_domain {model path : String} {bucket : Bucket}
    (h : ofPath? model path = some bucket) : '/' ∉ bucket.domain.toList := by
  unfold ofPath? at h
  split at h
  · cases h
  · next domain rest cut =>
      split at h
      · cases h
      · rw [← Option.some.inj h]
        exact Text.slash_not_mem_of_mem_segments (cut ▸ List.mem_cons_self)

theorem path_inj {a b : Bucket} (ha : '/' ∉ a.domain.toList) (hb : '/' ∉ b.domain.toList)
    (h : a.path = b.path) : a = b := by
  obtain ⟨domains, subfolders⟩ := Text.slash_inj ha hb h
  cases a; cases b
  exact congr (congrArg Bucket.mk domains) subfolders

theorem ne_path {domain : String} (h : '/' ∉ domain.toList) (bucket : Bucket) :
    domain ≠ bucket.path :=
  Text.ne_slash h

end Bucket

/-! ## The views of a placement -/

namespace Placement

variable {placement : Placement} {model : String} {bucket : Bucket}

theorem slash_not_mem_of_bucket? (h : placement.bucket? model = some bucket) :
    '/' ∉ bucket.domain.toList := by
  obtain ⟨path, -, h⟩ := Option.bind_eq_some_iff.mp h
  exact Bucket.slash_not_mem_domain h

/-- The models with a bucket are listed with their buckets. -/
theorem mem_bucketed : (model, bucket) ∈ placement.bucketed ↔
    placement.bucket? model = some bucket := by
  rw [bucketed, List.mem_filterMap, bucket?, Option.bind_eq_some_iff]
  constructor
  · rintro ⟨⟨name, path⟩, mem, h⟩
    obtain ⟨found, at_path, eq⟩ := Option.map_eq_some_iff.mp h
    obtain ⟨rfl, rfl⟩ := Prod.mk.inj eq
    exact ⟨path, Dict.get?_eq_some_iff.mpr mem, at_path⟩
  · rintro ⟨path, mem, h⟩
    exact ⟨(model, path), Dict.get?_eq_some_iff.mp mem, by simp [h]⟩

/-- No model is listed twice. -/
theorem bucketed_ascending (placement : Placement) :
    (placement.bucketed.map (·.1)).Pairwise (· < ·) := by
  rw [List.pairwise_map]
  refine List.Pairwise.filterMap _ ?_ placement.paths.ascending
  rintro ⟨a, p⟩ ⟨b, q⟩ lt x hx y hy
  obtain ⟨_, -, rfl⟩ := Option.map_eq_some_iff.mp hx
  obtain ⟨_, -, rfl⟩ := Option.map_eq_some_iff.mp hy
  exact lt

theorem mem_domains {domain : String} : domain ∈ placement.domains ↔
    ∃ model bucket, placement.bucket? model = some bucket ∧ bucket.domain = domain := by
  rw [domains, mem_ascending, List.mem_map]
  constructor
  · rintro ⟨⟨model, bucket⟩, mem, eq⟩
    exact ⟨model, bucket, mem_bucketed.mp mem, eq⟩
  · rintro ⟨model, bucket, h, eq⟩
    exact ⟨(model, bucket), mem_bucketed.mpr h, eq⟩

theorem mem_inDomain {domain : String} : (model, bucket) ∈ placement.inDomain domain ↔
    placement.bucket? model = some bucket ∧ bucket.domain = domain := by
  rw [inDomain, List.mem_filter, mem_bucketed, beq_iff_eq]

end Placement

end SchemaDto
