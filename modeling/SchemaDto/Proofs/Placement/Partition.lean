/-
# Groups are an ordered partition

The groups of a placement hold every generated model with a bucket, once, in the folders of
that bucket, and nothing else.  They are ordered at each of three levels: the domains by
name, the subfolders of a domain by their least models, the models of a subfolder by name.
The middle one is an invariant of filling subfolders with ascending models: a model that is
above all others never becomes the least one of a subfolder that is already there
(`InOrder.add`).
-/
import SchemaDto.Proofs.Placement.Groups

namespace SchemaDto

namespace Subfolder

/-! ## Least models -/

/-- The subfolder holds the model and none below it. -/
def IsLeast (inner : Subfolder) (model : String) : Prop :=
  model ∈ inner.models ∧ ∀ other ∈ inner.models, model ≤ other

/-- The least model of the first subfolder is below the least one of the second. -/
def Precedes (first second : Subfolder) : Prop :=
  ∃ model other, first.IsLeast model ∧ second.IsLeast other ∧ model < other

theorem isLeast_singleton (name model : String) : IsLeast ⟨name, [model]⟩ model := by
  refine ⟨List.mem_singleton_self model, fun other mem => ?_⟩
  obtain rfl := List.mem_singleton.mp mem
  exact String.le_refl other

/-- A model above the least one can be put last. -/
theorem IsLeast.concat {inner : Subfolder} {least model : String} (h : inner.IsLeast least)
    (above : least < model) : IsLeast ⟨inner.name, inner.models ++ [model]⟩ least := by
  refine ⟨List.mem_append_left _ h.1, fun other mem => ?_⟩
  rcases List.mem_append.mp mem with mem | mem
  · exact h.2 other mem
  · rw [List.mem_singleton.mp mem]
    exact String.not_lt.mp (String.lt_asymm above)

/-- The model is above every model of the subfolders. -/
def Above (model : String) (groups : List Subfolder) : Prop :=
  ∀ inner ∈ groups, ∀ other ∈ inner.models, other < model

/-- Every subfolder has a least model, and the subfolders stand in the order of these. -/
structure InOrder (groups : List Subfolder) : Prop where
  least : ∀ inner ∈ groups, ∃ model, inner.IsLeast model
  ordered : groups.Pairwise Precedes

/-! ## Filling subfolders -/

theorem mem_add {subfolder model : String} {groups : List Subfolder} {inner : Subfolder}
    (mem : inner ∈ add subfolder model groups) :
    inner ∈ groups ∨
      (∃ earlier ∈ groups, inner = ⟨earlier.name, earlier.models ++ [model]⟩) ∨
        inner = ⟨subfolder, [model]⟩ := by
  induction groups with
  | nil => exact .inr (.inr (List.mem_singleton.mp mem))
  | cons first rest ih =>
      rw [add] at mem
      split at mem
      · rcases List.mem_cons.mp mem with rfl | mem
        · exact .inr (.inl ⟨first, List.mem_cons_self, rfl⟩)
        · exact .inl (List.mem_cons_of_mem _ mem)
      · rcases List.mem_cons.mp mem with rfl | mem
        · exact .inl List.mem_cons_self
        · rcases ih mem with old | ⟨earlier, isEarlier, eq⟩ | new
          · exact .inl (List.mem_cons_of_mem _ old)
          · exact .inr (.inl ⟨earlier, List.mem_cons_of_mem _ isEarlier, eq⟩)
          · exact .inr (.inr new)

/-- Where a model above all others is put, the least model is the one that was there, or
the subfolder is new and the model is alone. -/
theorem least_of_mem_add {subfolder model : String} {groups : List Subfolder}
    (above : Above model groups) {inner : Subfolder} (mem : inner ∈ add subfolder model groups) :
    (∃ earlier ∈ groups, ∀ least, earlier.IsLeast least → inner.IsLeast least) ∨
      inner.IsLeast model := by
  rcases mem_add mem with old | ⟨earlier, isEarlier, rfl⟩ | rfl
  · exact .inl ⟨inner, old, fun _ isLeast => isLeast⟩
  · refine .inl ⟨earlier, isEarlier, fun least isLeast => ?_⟩
    exact isLeast.concat (above earlier isEarlier least isLeast.1)
  · exact .inr (isLeast_singleton subfolder model)

/-- Putting a model above all others into its subfolder keeps the order. -/
theorem InOrder.add {model : String} {groups : List Subfolder} (h : InOrder groups)
    (above : Above model groups) (subfolder : String) :
    InOrder (add subfolder model groups) where
  least := by
    intro inner mem
    rcases least_of_mem_add above mem with ⟨earlier, isEarlier, kept⟩ | alone
    · obtain ⟨least, isLeast⟩ := h.least earlier isEarlier
      exact ⟨least, kept least isLeast⟩
    · exact ⟨model, alone⟩
  ordered := by
    induction groups with
    | nil => exact List.pairwise_singleton _ _
    | cons first rest ih =>
        obtain ⟨before, ordered⟩ := List.pairwise_cons.mp h.ordered
        have aboveRest : Above model rest := fun inner mem =>
          above inner (List.mem_cons_of_mem _ mem)
        rw [Subfolder.add]
        split
        · -- the model joins the first subfolder, which keeps its least model
          refine List.pairwise_cons.mpr ⟨fun inner mem => ?_, ordered⟩
          obtain ⟨least, other, isLeast, isOther, lt⟩ := before inner mem
          have stillLeast := isLeast.concat (above first List.mem_cons_self _ isLeast.1)
          exact ⟨least, other, stillLeast, isOther, lt⟩
        · have others : InOrder rest :=
            ⟨fun inner mem => h.least inner (List.mem_cons_of_mem _ mem), ordered⟩
          refine List.pairwise_cons.mpr ⟨fun inner mem => ?_, ih others aboveRest⟩
          rcases least_of_mem_add aboveRest mem with ⟨earlier, isEarlier, kept⟩ | alone
          · obtain ⟨least, other, isLeast, isOther, lt⟩ := before earlier isEarlier
            exact ⟨least, other, isLeast, kept other isOther, lt⟩
          · obtain ⟨least, isLeast⟩ := h.least first List.mem_cons_self
            exact ⟨least, model, isLeast, alone, above first List.mem_cons_self least isLeast.1⟩

/-- Ascending models fill their subfolders in the order of the least models. -/
theorem inOrder_ofBucketed {bucketed : List (String × Bucket)}
    (ascending : (bucketed.map (·.1)).Pairwise (· < ·)) : InOrder (ofBucketed bucketed) := by
  induction bucketed using List.reverseRecOn with
  | nil => exact ⟨fun _ mem => absurd mem List.not_mem_nil, .nil⟩
  | append_singleton earlier entry ih =>
      rw [List.map_append, List.pairwise_append] at ascending
      obtain ⟨ascending, -, below⟩ := ascending
      rw [ofBucketed_concat]
      refine (ih ascending).add (fun inner mem other isOther => ?_) entry.2.subfolder
      rw [(mem_ofBucketed.mp mem).2] at isOther
      obtain ⟨bucket, listed, -⟩ := mem_collect.mp isOther
      exact below other (List.mem_map_of_mem listed) entry.1 (List.mem_singleton_self _)

end Subfolder

/-! ## The order of a partition -/

/-- The models of a domain, each with its bucket. -/
def DomainFolder.places (group : DomainFolder) : List (String × Bucket) :=
  group.subfolders.flatMap fun inner =>
    inner.models.map fun model => (model, ⟨group.name, inner.name⟩)

/-- A domain that is divided into subfolders: none is empty, and all of them are told apart
and ordered. -/
structure DomainFolder.Divided (group : DomainFolder) : Prop where
  used : group.subfolders ≠ []
  distinct : (group.subfolders.map (·.name)).Nodup
  ordered : group.subfolders.Pairwise Subfolder.Precedes
  filled : ∀ inner ∈ group.subfolders, inner.models ≠ []
  ascending : ∀ inner ∈ group.subfolders, inner.models.Pairwise (· < ·)

/-- The groups hold the models that satisfy the predicate with their buckets, each of them
once and nothing else, in order. -/
structure Partition (groups : List DomainFolder) (Holds : String → Bucket → Prop) : Prop where
  exact : ∀ model bucket, (model, bucket) ∈ groups.flatMap DomainFolder.places ↔ Holds model bucket
  once : (groups.flatMap DomainFolder.places).Nodup
  ascending : (groups.map (·.name)).Pairwise (· < ·)
  divided : ∀ group ∈ groups, group.Divided

theorem DomainFolder.map_places (group : DomainFolder) :
    group.places.map (·.1) = group.models := by
  simp [places, models, List.map_flatMap, Function.comp_def]

namespace Placement

theorem divided_of_mem_groups {placement : Placement} {generated : List String}
    {group : DomainFolder} (mem : group ∈ placement.groups generated) : group.Divided := by
  obtain ⟨-, subfolders, used⟩ := mem_groups.mp mem
  have ascending : (((placement.inDomain group.name).filter fun entry =>
      generated.contains entry.1).map (·.1)).Pairwise (· < ·) := by
    refine (bucketed_ascending placement).sublist (List.Sublist.map _ ?_)
    exact List.filter_sublist.trans List.filter_sublist
  have order : Subfolder.InOrder group.subfolders := by
    rw [subfolders]
    exact Subfolder.inOrder_ofBucketed ascending
  exact
    { used := used
      distinct := (grouped_groups placement generated).subfolders group mem
      ordered := order.ordered
      filled := by
        intro inner inGroup
        obtain ⟨model, isLeast, -⟩ := order.least inner inGroup
        exact List.ne_nil_of_mem isLeast
      ascending := by
        intro inner inGroup
        exact models_ascending (subfolders ▸ inGroup) }

/-- The groups of a placement hold exactly the generated models that have a bucket, each of
them once, in the folders of its bucket, and they are ordered throughout. -/
theorem groups_partition (placement : Placement) (generated : List String) :
    Partition (placement.groups generated) fun model bucket =>
      model ∈ generated ∧ placement.bucket? model = some bucket where
  exact := by
    intro model bucket
    rw [← mem_groups_models]
    simp only [List.mem_flatMap, DomainFolder.places, List.mem_map, Prod.mk.injEq]
    constructor
    · rintro ⟨group, mem, inner, inGroup, _, inInner, rfl, rfl⟩
      exact ⟨group, mem, rfl, inner, inGroup, rfl, inInner⟩
    · rintro ⟨group, mem, domain, inner, inGroup, subfolder, inInner⟩
      refine ⟨group, mem, inner, inGroup, model, inInner, rfl, ?_⟩
      rw [domain, subfolder]
  once := by
    refine List.Nodup.of_map (·.1) ?_
    have models : ((placement.groups generated).flatMap DomainFolder.places).map (·.1) =
        (placement.groups generated).flatMap DomainFolder.models := by
      rw [List.map_flatMap, funext DomainFolder.map_places]
    rw [models]
    exact placement.nodup_groups_models generated
  ascending := by
    have domains : placement.domains.Pairwise (· < ·) := ascending_pairwise _
    exact domains.sublist (names_groups_sublist placement generated)
  divided := fun group mem => divided_of_mem_groups mem

/-- Subfolders go by their least models, and not by their names. -/
example : (Placement.mk (.ofList [("Author", "blog/writers"), ("Comment", "blog/posts"),
      ("Editor", "blog/writers"), ("Topic", "blog/posts")])).groups ["Topic", "Author", "Comment"] =
    [⟨"blog", [⟨"writers", ["Author"]⟩, ⟨"posts", ["Comment", "Topic"]⟩]⟩] := by
  decide

end Placement

end SchemaDto
