/-
# Groups hold each generated model once

The subfolders of a domain are built model by model, each put last in its
subfolder.  `Subfolder.ofBucketed_eq` says what comes out: one subfolder for
each name, in order of first use, with the models of that name in their order.
Everything else is read off it:

* a model is in the subfolder `s` of the domain `d` exactly if it is generated
  and has the bucket `d/s` (`mem_groups_models`);
* no model is in two places, and no folder stands for two groups
  (`Grouped`, `grouped_groups`).
-/
import SchemaDto.Placement
import SchemaDto.Proofs.Order.FirstUse
import SchemaDto.Proofs.Placement.Bucket

namespace SchemaDto

/-! ## The subfolders of a domain -/

namespace Subfolder

/-- The subfolder of that name with its models, out of models with buckets. -/
def collect (bucketed : List (String × Bucket)) (name : String) : Subfolder :=
  ⟨name, (bucketed.filter (·.2.subfolder == name)).map (·.1)⟩

theorem collect_concat (bucketed : List (String × Bucket)) (model : String) (bucket : Bucket)
    (name : String) : collect (bucketed ++ [(model, bucket)]) name =
      if bucket.subfolder = name then ⟨name, (collect bucketed name).models ++ [model]⟩
      else collect bucketed name := by
  by_cases h : bucket.subfolder = name <;> simp [collect, h]

/-- Adding a model to subfolders with distinct names changes the one of that
name, or brings it in as the last one. -/
theorem add_map {names : List String} (distinct : names.Nodup) (group : String → Subfolder)
    (named : ∀ name, (group name).name = name) (subfolder model : String) :
    add subfolder model (names.map group) =
      if subfolder ∈ names then
        names.map fun name =>
          if subfolder = name then ⟨name, (group name).models ++ [model]⟩ else group name
      else names.map group ++ [⟨subfolder, [model]⟩] := by
  induction names with
  | nil => rfl
  | cons name rest ih =>
      obtain ⟨fresh, distinct⟩ := List.nodup_cons.mp distinct
      rw [List.map_cons, add, named]
      by_cases eq : name = subfolder
      · -- the rest keeps its groups: the name does not occur again
        subst eq
        have same : (rest.map fun other =>
            if name = other then ⟨other, (group other).models ++ [model]⟩ else group other) =
              rest.map group := by
          refine List.map_congr_left fun other mem => if_neg ?_
          rintro rfl
          exact fresh mem
        simp [same]
      · have ne : subfolder ≠ name := fun h => eq h.symm
        rw [if_neg eq, ih distinct]
        by_cases mem : subfolder ∈ rest <;> simp [mem, ne]

/-- The last model is put into the subfolders of the others. -/
theorem ofBucketed_concat (bucketed : List (String × Bucket)) (entry : String × Bucket) :
    ofBucketed (bucketed ++ [entry]) = add entry.2.subfolder entry.1 (ofBucketed bucketed) := by
  simp [ofBucketed]

/-- One subfolder for each name, in order of first use. -/
theorem ofBucketed_eq (bucketed : List (String × Bucket)) :
    ofBucketed bucketed = (bucketed.map (·.2.subfolder)).eraseDups.map (collect bucketed) := by
  induction bucketed using List.reverseRecOn with
  | nil => rfl
  | append_singleton bucketed entry ih =>
      obtain ⟨model, bucket⟩ := entry
      rw [ofBucketed_concat, ih, add_map (nodup_eraseDups _) _ (fun _ => rfl), List.map_append,
        List.map_singleton, eraseDups_concat]
      simp only [List.mem_eraseDups]
      split
      · exact List.map_congr_left fun name _ => (collect_concat ..).symm
      · next new =>
          -- the models before the last one are all in other subfolders
          have others : ∀ name ∈ (bucketed.map (·.2.subfolder)).eraseDups,
              collect bucketed name = collect (bucketed ++ [(model, bucket)]) name := by
            intro name mem
            have ne : bucket.subfolder ≠ name := by
              rintro rfl
              exact new (List.mem_eraseDups.mp mem)
            rw [collect_concat, if_neg ne]
          have none : (collect bucketed bucket.subfolder).models = [] := by
            simp only [collect, List.map_eq_nil_iff, List.filter_eq_nil_iff, beq_iff_eq]
            intro entry mem eq
            exact new (List.mem_map.mpr ⟨entry, mem, eq⟩)
          rw [List.map_append, List.map_singleton, collect_concat, if_pos rfl, none,
            List.map_congr_left others]
          rfl

theorem mem_collect {bucketed : List (String × Bucket)} {name model : String} :
    model ∈ (collect bucketed name).models ↔
      ∃ bucket, (model, bucket) ∈ bucketed ∧ bucket.subfolder = name := by
  simp only [collect, List.mem_map, List.mem_filter, beq_iff_eq]
  constructor
  · rintro ⟨⟨_, bucket⟩, ⟨mem, eq⟩, rfl⟩
    exact ⟨bucket, mem, eq⟩
  · rintro ⟨bucket, mem, eq⟩
    exact ⟨(model, bucket), ⟨mem, eq⟩, rfl⟩

theorem mem_ofBucketed {bucketed : List (String × Bucket)} {group : Subfolder} :
    group ∈ ofBucketed bucketed ↔
      (∃ entry ∈ bucketed, entry.2.subfolder = group.name) ∧
        group = collect bucketed group.name := by
  rw [ofBucketed_eq, List.mem_map]
  constructor
  · rintro ⟨name, mem, rfl⟩
    exact ⟨List.mem_map.mp (List.mem_eraseDups.mp mem), rfl⟩
  · rintro ⟨used, eq⟩
    exact ⟨group.name, List.mem_eraseDups.mpr (List.mem_map.mpr used), eq.symm⟩

theorem ofBucketed_names (bucketed : List (String × Bucket)) :
    (ofBucketed bucketed).map (·.name) = (bucketed.map (·.2.subfolder)).eraseDups := by
  rw [ofBucketed_eq, List.map_map]
  exact List.map_id'' (fun _ => rfl) _

end Subfolder

/-! ## Where a generated model is -/

namespace Placement

variable {placement : Placement} {generated : List String}

theorem mem_subfolders {domain : String} {group : Subfolder} :
    group ∈ placement.subfolders generated domain → ∀ {model : String}, model ∈ group.models →
      model ∈ generated ∧ placement.bucket? model = some ⟨domain, group.name⟩ := by
  intro mem model inGroup
  obtain ⟨-, eq⟩ := Subfolder.mem_ofBucketed.mp mem
  rw [eq] at inGroup
  obtain ⟨⟨_, _⟩, listed, rfl⟩ := Subfolder.mem_collect.mp inGroup
  obtain ⟨inDomain, isGenerated⟩ := List.mem_filter.mp listed
  obtain ⟨found, rfl⟩ := mem_inDomain.mp inDomain
  exact ⟨List.contains_iff_mem.mp isGenerated, found⟩

theorem exists_subfolder {domain subfolder model : String} (isGenerated : model ∈ generated)
    (found : placement.bucket? model = some ⟨domain, subfolder⟩) :
    ∃ group ∈ placement.subfolders generated domain,
      group.name = subfolder ∧ model ∈ group.models := by
  have listed : (model, (⟨domain, subfolder⟩ : Bucket)) ∈
      (placement.inDomain domain).filter fun entry => generated.contains entry.1 :=
    List.mem_filter.mpr ⟨mem_inDomain.mpr ⟨found, rfl⟩, List.contains_iff_mem.mpr isGenerated⟩
  exact ⟨.collect _ subfolder, Subfolder.mem_ofBucketed.mpr ⟨⟨_, listed, rfl⟩, rfl⟩, rfl,
    Subfolder.mem_collect.mpr ⟨_, listed, rfl⟩⟩

/-- The models of a subfolder are ascending, as all models with a bucket are. -/
theorem models_ascending {domain : String} {group : Subfolder}
    (mem : group ∈ placement.subfolders generated domain) :
    group.models.Pairwise (· < ·) := by
  rw [(Subfolder.mem_ofBucketed.mp mem).2]
  refine (bucketed_ascending placement).sublist (List.Sublist.map _ ?_)
  exact List.filter_sublist.trans (List.filter_sublist.trans List.filter_sublist)

theorem mem_groups {group : DomainFolder} : group ∈ placement.groups generated ↔
    group.name ∈ placement.domains ∧
      group.subfolders = placement.subfolders generated group.name ∧ group.subfolders ≠ [] := by
  rw [groups, List.mem_filter, List.mem_map]
  constructor
  · rintro ⟨⟨domain, mem, rfl⟩, used⟩
    exact ⟨mem, rfl, by simpa using used⟩
  · rintro ⟨mem, eq, used⟩
    exact ⟨⟨group.name, mem, eq ▸ rfl⟩, by simpa using used⟩

/-- A model is in a subfolder of a group exactly if it is generated and the
folders are those of its bucket. -/
theorem mem_groups_models {domain subfolder model : String} :
    (∃ group ∈ placement.groups generated, group.name = domain ∧
      ∃ inner ∈ group.subfolders, inner.name = subfolder ∧ model ∈ inner.models) ↔
    model ∈ generated ∧ placement.bucket? model = some ⟨domain, subfolder⟩ := by
  constructor
  · rintro ⟨group, mem, rfl, inner, inGroup, rfl, inInner⟩
    exact mem_subfolders ((mem_groups.mp mem).2.1 ▸ inGroup) inInner
  · rintro ⟨isGenerated, found⟩
    obtain ⟨inner, mem, name, inInner⟩ := exists_subfolder isGenerated found
    exact ⟨⟨domain, placement.subfolders generated domain⟩,
      mem_groups.mpr ⟨mem_domains.mpr ⟨model, _, found, rfl⟩, rfl, List.ne_nil_of_mem mem⟩,
      rfl, inner, mem, name, inInner⟩

end Placement

/-! ## No two folders of the groups are the same -/

/-- The folders of a domain: its own, and one for each subfolder. -/
def DomainFolder.folders (group : DomainFolder) : List String :=
  group.name :: group.subfolders.map fun inner => Bucket.path ⟨group.name, inner.name⟩

/-- The models of a domain. -/
def DomainFolder.models (group : DomainFolder) : List String :=
  group.subfolders.flatMap (·.models)

/-- Groups that are told apart by their names. -/
structure Grouped (groups : List DomainFolder) : Prop where
  domains : (groups.map (·.name)).Nodup
  noSlash : ∀ group ∈ groups, '/' ∉ group.name.toList
  subfolders : ∀ group ∈ groups, (group.subfolders.map (·.name)).Nodup

namespace Placement

/-- The groups stand in the order of the domains. -/
theorem names_groups_sublist (placement : Placement) (generated : List String) :
    ((placement.groups generated).map (·.name)).Sublist placement.domains := by
  have kept : ((placement.groups generated).map (·.name)).Sublist
      ((placement.domains.map fun domain =>
        (⟨domain, placement.subfolders generated domain⟩ : DomainFolder)).map (·.name)) :=
    List.filter_sublist.map _
  simpa [Function.comp_def] using kept

theorem grouped_groups (placement : Placement) (generated : List String) :
    Grouped (placement.groups generated) where
  domains := by
    have distinct : placement.domains.Nodup := nodup_of_ascending (ascending_pairwise _)
    exact distinct.sublist (names_groups_sublist placement generated)
  noSlash := by
    intro group mem
    obtain ⟨model, bucket, found, eq⟩ := mem_domains.mp (mem_groups.mp mem).1
    exact eq ▸ slash_not_mem_of_bucket? found
  subfolders := by
    intro group mem
    rw [(mem_groups.mp mem).2.1, subfolders, Subfolder.ofBucketed_names]
    exact nodup_eraseDups _

end Placement

theorem Grouped.pairwise_ne {groups : List DomainFolder} (grouped : Grouped groups) :
    groups.Pairwise (fun a b => a.name ≠ b.name) :=
  List.pairwise_map.mp grouped.domains

/-- The first part of a folder is the domain that it belongs to. -/
theorem DomainFolder.name_eq_of_mem_folders {a b : DomainFolder} {folder : String}
    (noSlash : '/' ∉ a.name.toList) (noSlash' : '/' ∉ b.name.toList)
    (mem : folder ∈ a.folders) (mem' : folder ∈ b.folders) : a.name = b.name := by
  rcases List.mem_cons.mp mem with rfl | mem
  · rcases List.mem_cons.mp mem' with eq | mem'
    · exact eq
    · obtain ⟨inner, -, eq⟩ := List.mem_map.mp mem'
      exact absurd eq.symm (Bucket.ne_path noSlash _)
  · obtain ⟨inner, -, rfl⟩ := List.mem_map.mp mem
    rcases List.mem_cons.mp mem' with eq | mem'
    · exact absurd eq.symm (Bucket.ne_path noSlash' _)
    · obtain ⟨other, -, eq⟩ := List.mem_map.mp mem'
      exact congrArg Bucket.domain (Bucket.path_inj noSlash noSlash' eq.symm)

theorem Grouped.nodup_folders {groups : List DomainFolder} (grouped : Grouped groups) :
    (groups.flatMap DomainFolder.folders).Nodup := by
  refine List.nodup_flatMap.mpr ⟨fun group mem => ?_, ?_⟩
  · have noSlash := grouped.noSlash group mem
    refine List.nodup_cons.mpr ⟨fun own => ?_, ?_⟩
    · obtain ⟨inner, -, eq⟩ := List.mem_map.mp own
      exact Bucket.ne_path noSlash _ eq.symm
    · refine List.pairwise_map.mpr ((List.pairwise_map.mp (grouped.subfolders group mem)).imp ?_)
      intro inner other ne eq
      exact ne (congrArg Bucket.subfolder (Bucket.path_inj noSlash noSlash eq))
  · refine grouped.pairwise_ne.imp_of_mem fun {a b} mem mem' ne folder inA inB => ?_
    exact ne (DomainFolder.name_eq_of_mem_folders (grouped.noSlash a mem)
      (grouped.noSlash b mem') inA inB)

/-! ## No model is in two places -/

theorem Placement.nodup_groups_models (placement : Placement) (generated : List String) :
    ((placement.groups generated).flatMap DomainFolder.models).Nodup := by
  have grouped := placement.grouped_groups generated
  -- the domain and the subfolder of a model are those of its bucket
  have bucket : ∀ {group inner model}, group ∈ placement.groups generated →
      inner ∈ group.subfolders → model ∈ inner.models →
        placement.bucket? model = some ⟨group.name, inner.name⟩ := by
    intro group inner model mem inGroup inInner
    exact (mem_groups_models.mp ⟨group, mem, rfl, inner, inGroup, rfl, inInner⟩).2
  refine List.nodup_flatMap.mpr ⟨fun group mem => List.nodup_flatMap.mpr ⟨?_, ?_⟩, ?_⟩
  · intro inner inGroup
    exact nodup_of_ascending (models_ascending ((mem_groups.mp mem).2.1 ▸ inGroup))
  · refine (List.pairwise_map.mp (grouped.subfolders group mem)).imp_of_mem ?_
    intro a b inGroup inGroup' ne model inA inB
    have same := (bucket mem inGroup inA).symm.trans (bucket mem inGroup' inB)
    exact ne (congrArg Bucket.subfolder (Option.some.inj same))
  · refine grouped.pairwise_ne.imp_of_mem fun {a b} mem mem' ne model inA inB => ?_
    obtain ⟨inner, inGroup, inInner⟩ := List.mem_flatMap.mp inA
    obtain ⟨inner', inGroup', inInner'⟩ := List.mem_flatMap.mp inB
    have same := (bucket mem inGroup inInner).symm.trans (bucket mem' inGroup' inInner')
    exact ne (congrArg Bucket.domain (Option.some.inj same))

theorem Placement.mem_groups_flatMap_models {placement : Placement} {generated : List String}
    {model : String} : model ∈ (placement.groups generated).flatMap DomainFolder.models ↔
      model ∈ generated ∧ (placement.bucket? model).isSome = true := by
  simp only [List.mem_flatMap, DomainFolder.models]
  constructor
  · rintro ⟨group, mem, inner, inGroup, inInner⟩
    obtain ⟨isGenerated, found⟩ :=
      mem_groups_models.mp ⟨group, mem, rfl, inner, inGroup, rfl, inInner⟩
    exact ⟨isGenerated, found ▸ rfl⟩
  · rintro ⟨isGenerated, found⟩
    obtain ⟨⟨domain, subfolder⟩, found⟩ := Option.isSome_iff_exists.mp found
    obtain ⟨group, mem, -, inner, inGroup, -, inInner⟩ :=
      mem_groups_models.mpr ⟨isGenerated, found⟩
    exact ⟨group, mem, inner, inGroup, inInner⟩

end SchemaDto
