/-
# The enumerations of a model

Resolving a model collects the enumerations that its fields refer to: the first declaration
of each name, once, in the order in which the fields first refer to the names.  A name
without a declaration is passed over.  The list is built from the front, one name at a time
(`Enumeration.collect_concat`), and there is only one list of this kind (`resolve_collects`).
-/
import SchemaDto.Proofs.Order.FirstUse
import SchemaDto.Schema.Model

namespace SchemaDto

namespace Enumeration

variable {enums : List Enumeration} {enum : Enumeration} {name : String}

/-! ## Declarations of a name -/

/-- The first declaration of its name. -/
def IsFirst (enums : List Enumeration) (enum : Enumeration) : Prop :=
  ∃ before after, enums = before ++ enum :: after ∧ enum.name ∉ before.map (·.name)

/-- The last declaration of its name. -/
def IsLast (enums : List Enumeration) (enum : Enumeration) : Prop :=
  ∃ before after, enums = before ++ enum :: after ∧ enum.name ∉ after.map (·.name)

theorem name_of_find? (h : find? enums name = some enum) : enum.name = name := by
  have named := List.find?_some h
  exact eq_of_beq named

theorem exists_find?_of_mem (declared : name ∈ enums.map (·.name)) :
    ∃ enum, find? enums name = some enum := by
  obtain ⟨enum, mem, rfl⟩ := List.mem_map.mp declared
  refine Option.isSome_iff_exists.mp (List.find?_isSome.mpr ⟨enum, mem, ?_⟩)
  exact beq_self_eq_true enum.name

theorem isFirst_of_find? (h : find? enums name = some enum) : IsFirst enums enum := by
  obtain ⟨found, before, after, rfl, earlier⟩ := List.find?_eq_some_iff_append.mp h
  refine ⟨before, after, rfl, fun mem => ?_⟩
  obtain ⟨other, isEarlier, same⟩ := List.mem_map.mp mem
  have different := earlier other isEarlier
  rw [same, found] at different
  exact absurd different (by decide)

theorem find?_of_isFirst (h : IsFirst enums enum) : find? enums enum.name = some enum := by
  obtain ⟨before, after, rfl, fresh⟩ := h
  have earlier : before.find? (·.name == enum.name) = none := by
    refine List.find?_eq_none.mpr fun other mem same => fresh ?_
    exact List.mem_map.mpr ⟨other, mem, eq_of_beq same⟩
  simp [find?, earlier]

/-- Read backwards, the first declaration is the last one. -/
theorem isFirst_reverse_iff : IsFirst enums.reverse enum ↔ IsLast enums enum := by
  constructor
  · rintro ⟨before, after, split, fresh⟩
    refine ⟨after.reverse, before.reverse, ?_, by simpa using fresh⟩
    have backwards := congrArg List.reverse split
    simpa using backwards
  · rintro ⟨before, after, rfl, fresh⟩
    exact ⟨after.reverse, before.reverse, by simp, by simpa using fresh⟩

theorem isLast_of_find? (h : find? enums.reverse name = some enum) : IsLast enums enum :=
  isFirst_reverse_iff.mp (isFirst_of_find? h)

theorem find?_of_isLast (h : IsLast enums enum) : find? enums.reverse enum.name = some enum :=
  find?_of_isFirst (isFirst_reverse_iff.mpr h)

/-! ## Collecting declarations -/

/-- The first declarations of the names that occur, each once, in order of first use. -/
def collect (enums : List Enumeration) (names : List String) : List Enumeration :=
  names.eraseDups.filterMap (find? enums)

theorem mem_collect {names : List String} :
    enum ∈ collect enums names ↔ enum.name ∈ names ∧ find? enums enum.name = some enum := by
  rw [collect, List.mem_filterMap]
  constructor
  · rintro ⟨name, mem, found⟩
    obtain rfl := name_of_find? found
    exact ⟨List.mem_eraseDups.mp mem, found⟩
  · rintro ⟨mem, found⟩
    exact ⟨enum.name, List.mem_eraseDups.mpr mem, found⟩

theorem collect_concat (enums : List Enumeration) (names : List String) (name : String) :
    collect enums (names ++ [name]) = meet enums (collect enums names) name := by
  have met : (collect enums names).any (·.name == name) = true ↔
      name ∈ names ∧ (find? enums name).isSome = true := by
    rw [List.any_eq_true, Option.isSome_iff_exists]
    constructor
    · rintro ⟨enum, mem, same⟩
      obtain rfl := eq_of_beq same
      exact ⟨(mem_collect.mp mem).1, enum, (mem_collect.mp mem).2⟩
    · rintro ⟨mem, enum, found⟩
      obtain rfl := name_of_find? found
      exact ⟨enum, mem_collect.mpr ⟨mem, found⟩, beq_self_eq_true enum.name⟩
  rw [meet, collect, eraseDups_concat]
  by_cases used : name ∈ names
  · rw [if_pos used, ← collect]
    split
    · rfl
    · next unmet =>
        -- the name is used again, and it has no declaration
        have undeclared : find? enums name = none := by
          rw [← Option.not_isSome_iff_eq_none]
          exact fun declared => unmet (met.mpr ⟨used, declared⟩)
        rw [undeclared]
        exact (List.append_nil _).symm
  · have unmet : ¬(collect enums names).any (·.name == name) = true :=
      fun isMet => used (met.mp isMet).1
    rw [if_neg used, if_neg unmet, List.filterMap_append, ← collect]
    cases found : find? enums name with
    | none => simp [found]
    | some enum => simp [found]

theorem nodup_collect (enums : List Enumeration) (names : List String) :
    ((collect enums names).map (·.name)).Nodup := by
  have kept : (collect enums names).map (·.name) =
      names.eraseDups.filter fun name => (find? enums name).isSome := by
    rw [collect, List.map_filterMap, ← List.filterMap_eq_filter]
    refine List.filterMap_congr fun name _ => ?_
    cases found : find? enums name with
    | none => simp [Option.guard, found]
    | some enum => simp [Option.guard, found, name_of_find? found]
  rw [kept]
  exact (nodup_eraseDups names).filter _

end Enumeration

/-- The enumerations of a model are collected from its fields. -/
theorem Field.enumsOf_eq (enums : List Enumeration) (fields : List Field) :
    enumsOf enums fields = Enumeration.collect enums (fields.filterMap (·.enumName)) := by
  rw [enumsOf]
  induction fields.filterMap (·.enumName) using List.reverseRecOn with
  | nil => rfl
  | append_singleton names name ih =>
      rw [List.foldl_append, ih, Enumeration.collect_concat]
      rfl

/-! ## References of fields -/

/-- The field refers to an enumeration of that name, declared or not. -/
def FieldDecl.RefersTo (field : FieldDecl) (name : String) : Prop :=
  field.kind = .enumeration ∧ field.type = name

instance (field : FieldDecl) (name : String) : Decidable (field.RefersTo name) :=
  inferInstanceAs (Decidable (_ ∧ _))

theorem FieldDecl.enumName_resolve_eq_some_iff {field : FieldDecl} {enums : List Enumeration}
    {name : String} : (field.resolve enums).enumName = some name ↔ field.RefersTo name := by
  by_cases isEnum : field.kind = .enumeration <;> simp [resolve, RefersTo, isEnum]

namespace ModelDecl

/-- The position of the first field that refers to an enumeration of that name. -/
def firstUse (model : ModelDecl) (name : String) : Nat :=
  model.fields.findIdx fun field => field.RefersTo name

/-- The list holds the first declarations of the names that fields of the model refer to,
each once, in the order in which the fields first refer to them. -/
structure Collects (model : ModelDecl) (enums used : List Enumeration) : Prop where
  distinct : (used.map (·.name)).Nodup
  ordered : used.Pairwise fun enum other => model.firstUse enum.name < model.firstUse other.name
  mem_iff : ∀ enum, enum ∈ used ↔
    (∃ field ∈ model.fields, field.RefersTo enum.name) ∧ Enumeration.IsFirst enums enum

variable (model : ModelDecl) (enums : List Enumeration)

theorem enums_resolve : (model.resolve enums).enums = Enumeration.collect enums
    (model.fields.filterMap fun field => (field.resolve enums).enumName) := by
  show Field.enumsOf enums (model.fields.map (FieldDecl.resolve enums)) = _
  rw [Field.enumsOf_eq, List.filterMap_map]
  rfl

theorem nodup_enums_resolve : ((model.resolve enums).enums.map (·.name)).Nodup := by
  rw [enums_resolve]
  exact Enumeration.nodup_collect enums _

theorem mem_enums_resolve {enum : Enumeration} : enum ∈ (model.resolve enums).enums ↔
    (∃ field ∈ model.fields, field.RefersTo enum.name) ∧ Enumeration.IsFirst enums enum := by
  rw [enums_resolve, Enumeration.mem_collect, List.mem_filterMap]
  simp only [FieldDecl.enumName_resolve_eq_some_iff]
  exact and_congr_right fun _ => ⟨Enumeration.isFirst_of_find?, Enumeration.find?_of_isFirst⟩

theorem enums_resolve_pairwise : (model.resolve enums).enums.Pairwise fun enum other =>
    model.firstUse enum.name < model.firstUse other.name := by
  -- a field refers to the enumeration that it is resolved with
  have position : ∀ name, model.firstUse name =
      model.fields.findIdx fun field => (field.resolve enums).enumName == some name := by
    intro name
    refine congrArg model.fields.findIdx (funext fun field => ?_)
    rw [Bool.eq_iff_iff, decide_eq_true_iff, beq_iff_eq, FieldDecl.enumName_resolve_eq_some_iff]
  rw [enums_resolve, Enumeration.collect, List.pairwise_filterMap]
  refine (eraseDups_filterMap_pairwise _ model.fields).imp ?_
  intro name later before enum found other foundLater
  rw [position, position, Enumeration.name_of_find? found, Enumeration.name_of_find? foundLater]
  exact before

variable {model enums}

/-- Only one list holds these declarations in this order: the first uses of its members
ascend strictly, and which members it has is given. -/
theorem Collects.eq {used used' : List Enumeration} (h : model.Collects enums used)
    (h' : model.Collects enums used') : used = used' := by
  have perm : used.Perm used' :=
    (List.perm_ext_iff_of_nodup (.of_map _ h.distinct) (.of_map _ h'.distinct)).mpr
      fun enum => (h.mem_iff enum).trans (h'.mem_iff enum).symm
  refine List.Perm.eq_of_pairwise ?_ h.ordered h'.ordered perm
  intro enum other _ _ before after
  exact absurd after (Nat.lt_asymm before)

/-- Resolving a model resolves its fields one by one, and it collects the declared
enumerations that they refer to. -/
theorem resolve_collects (model : ModelDecl) (enums : List Enumeration) :
    List.Forall₂ (fun field resolved => resolved = field.resolve enums) model.fields
        (model.resolve enums).fields ∧
      model.Collects enums (model.resolve enums).enums ∧
      ∀ used, model.Collects enums used → used = (model.resolve enums).enums := by
  have collects : model.Collects enums (model.resolve enums).enums :=
    { distinct := model.nodup_enums_resolve enums
      ordered := model.enums_resolve_pairwise enums
      mem_iff := fun _ => model.mem_enums_resolve enums }
  refine ⟨?_, collects, fun used h => h.eq collects⟩
  exact List.forall₂_map_right_iff.mpr (List.forall₂_same.mpr fun _ _ => rfl)

/-- Repeated references count once, and so does a repeated declaration; `Carrier` is not
declared, and nothing refers to `Colour`. -/
example : (resolve [⟨"Size", ["SMALL"]⟩, ⟨"Colour", ["RED"]⟩, ⟨"Status", ["OPEN"]⟩,
      ⟨"Size", ["LARGE"]⟩]
    { name := "Parcel"
      fields :=
        [{ name := "status", kind := .enumeration, type := "Status" },
         { name := "carrier", kind := .enumeration, type := "Carrier" },
         { name := "size", kind := .enumeration, type := "Size" },
         { name := "previous", kind := .enumeration, type := "Status" }] }).enums =
    [⟨"Status", ["OPEN"]⟩, ⟨"Size", ["SMALL"]⟩] := by decide

end ModelDecl

end SchemaDto
