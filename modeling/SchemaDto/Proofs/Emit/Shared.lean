/-
# Fields that two classes share

Whatever a caller may set, the class for reading shows as well, in the same order.  Such
a field looks alike in both classes: the reading one only adds the mark `readOnly` at the
end of its options, and it adds nothing to the identity of a record, which has the mark
in the creating class already (`shared_fields_alike`).
-/
import SchemaDto.Proofs.Agreement
import SchemaDto.Proofs.Emit.Fields

namespace SchemaDto

/-! ## The mark of what is only read -/

theorem SwaggerOption.render_eq_readOnly {entry : SwaggerOption}
    (h : entry.render = "readOnly: true") : entry = .readOnly := by
  -- no other entry begins with this letter, whatever name it holds
  have first := congrArg (fun text => text.toList.head?) h
  cases entry with
  | readOnly => rfl
  | _ => simp [render] at first

namespace Typing

variable (typing : Typing) {field : Field}

theorem typeOptions_ne_nil : typing.typeOptions ≠ [] := by
  unfold typeOptions
  split <;> simp

/-- The entries of a property but for the mark. -/
def openOptions : List SwaggerOption :=
  typing.typeOptions ++ if typing.isNullable then [.nullable] else []

theorem swaggerOptions_of_marked (field : Field) :
    typing.swaggerOptions field true = typing.openOptions ++ [.readOnly] :=
  rfl

theorem swaggerOptions_ne_nil (field : Field) (readOnly : Bool) :
    typing.swaggerOptions field readOnly ≠ [] := by
  rw [swaggerOptions, List.append_assoc]
  exact List.append_ne_nil_of_left_ne_nil typing.typeOptions_ne_nil _

theorem readOnly_not_mem_openOptions : .readOnly ∉ typing.openOptions := by
  intro mem
  rcases List.mem_append.mp mem with mem | mem
  · simp [mem_typeOptions] at mem
  · split at mem <;> simp at mem

/-- A property of the class for reading has the mark once. -/
theorem count_readOnly (field : Field) :
    ((typing.property field true).options.map SwaggerOption.render).count "readOnly: true" = 1 := by
  have unmarked : "readOnly: true" ∉ typing.openOptions.map SwaggerOption.render := by
    intro mem
    obtain ⟨entry, isEntry, text⟩ := List.mem_map.mp mem
    exact typing.readOnly_not_mem_openOptions (SwaggerOption.render_eq_readOnly text ▸ isEntry)
  have options : (typing.property field true).options.map SwaggerOption.render =
      typing.openOptions.map SwaggerOption.render ++ ["readOnly: true"] := by
    show (typing.swaggerOptions field true).map SwaggerOption.render = _
    rw [swaggerOptions_of_marked, List.map_append]
    rfl
  rw [options, List.count_append, List.count_eq_zero.mpr unmarked, List.count_singleton_self]

end Typing

/-! ## A property in both classes -/

namespace Property

/-- The text of a property up to its last option. -/
def opening (property : Property) : String :=
  "@" ++ property.presence.decorator ++ "(\x7b " ++
    ", ".intercalate (property.options.map SwaggerOption.render)

/-- The text of a property from the end of its options. -/
def closing (property : Property) : String :=
  " \x7d)\n  " ++ property.check.render ++ "\n  " ++ property.label ++ ": " ++
    property.type.render ++ ";"

theorem render_eq_opening_closing (property : Property) :
    property.render = property.opening ++ property.closing := by
  have lines : property.render = property.apiDecorator ++ ("\n  " ++ (property.check.render ++
      ("\n  " ++ property.declarationLine))) := by
    simp only [render, decorators, List.cons_append, List.nil_append,
      String.intercalate_cons_cons, String.intercalate_singleton, declarationLine,
      String.append_assoc]
  have joint : " \x7d)\n  " = " \x7d)" ++ "\n  " := by decide
  rw [lines, closing, joint]
  simp only [opening, apiDecorator, declarationLine, String.append_assoc, -String.reduceAppend]

/-- The property with another option at the end. -/
def withOption (property : Property) (last : SwaggerOption) : Property :=
  { property with options := property.options ++ [last] }

/-- Another option is put before the end of the options, and nothing else changes. -/
theorem render_withOption {property : Property} (ne : property.options ≠ [])
    (last : SwaggerOption) : (property.withOption last).render =
      property.opening ++ (", " ++ last.render) ++ property.closing := by
  have entries : property.options.map SwaggerOption.render ≠ [] := by simpa using ne
  have opening : (property.withOption last).opening =
      property.opening ++ (", " ++ last.render) := by
    simp only [Property.opening, withOption, List.map_append, List.map_singleton,
      String.intercalate_append_of_ne_nil entries (List.cons_ne_nil _ _),
      String.intercalate_singleton, String.append_assoc]
  rw [render_eq_opening_closing, opening]
  rfl

/-- What the property of a field in the class for reading, `shown`, has in common with the
one in the class for creating, `made`. -/
structure ShownAs (made shown : Property) (field : Field) : Prop where
  same : shown.render = made.render ↔ field.isId = true
  /-- Only the end of the options differs. -/
  marked : field.isId = false → shown = made.withOption .readOnly ∧
    made.render = made.opening ++ made.closing ∧
    shown.render = made.opening ++ ", readOnly: true" ++ made.closing

end Property

namespace Typing

variable (typing : Typing) {field : Field}

/-- The identity of a record has the mark in either class. -/
theorem property_of_isId (isId : field.isId = true) :
    typing.property field true = typing.property field false := by
  have readOnly : field.isReadOnly = true := by rw [Field.isReadOnly, isId, Bool.true_or]
  simp only [Typing.property, swaggerOptions, readOnly, Bool.or_true]

/-- Any other field that a caller may set gets the mark in the class for reading. -/
theorem property_of_not_isId (isId : field.isId = false) (isUpdatedAt : field.isUpdatedAt = false) :
    typing.property field true = (typing.property field false).withOption .readOnly := by
  have writable : field.isReadOnly = false := by rw [Field.isReadOnly, isId, isUpdatedAt]; rfl
  simp [Typing.property, Property.withOption, swaggerOptions, writable]

theorem shownAs (isUpdatedAt : field.isUpdatedAt = false) :
    (typing.property field false).ShownAs (typing.property field true) field := by
  cases isId : field.isId with
  | true =>
      have same := typing.property_of_isId isId
      exact
        { same := iff_of_true (by rw [same]) isId
          marked := fun absurd => by cases isId.symm.trans absurd }
  | false =>
      have marked := typing.property_of_not_isId isId isUpdatedAt
      have options := typing.swaggerOptions_ne_nil field false
      have made := (typing.property field false).render_eq_opening_closing
      have shown : (typing.property field true).render = _ :=
        marked ▸ Property.render_withOption options .readOnly
      refine ⟨iff_of_false (fun same => ?_) (by simp [isId]), fun _ => ⟨marked, made, shown⟩⟩
      -- the mark makes the text longer
      have lengths := congrArg String.length same
      rw [made, shown] at lengths
      simp [SwaggerOption.render] at lengths

end Typing

/-! ## The classes -/

theorem Field.isReadable_of_isCreatable {omitted : List String} {field : Field}
    (h : field.isCreatable omitted = true) : field.isReadable omitted = true := by
  simp only [isCreatable, isReadable, Bool.and_eq_true] at h ⊢
  exact ⟨h.1.1.2, h.2⟩

theorem Field.isUpdatedAt_of_isCreatable {omitted : List String} {field : Field}
    (h : field.isCreatable omitted = true) : field.isUpdatedAt = false := by
  simp only [isCreatable, Bool.and_eq_true, Bool.not_eq_true'] at h
  exact h.1.2

namespace Model

variable (model : Model) (omitted : List String)

theorem createFields_eq_filter : model.createFields omitted =
    (model.readFields omitted).filter (Field.isCreatable omitted) := by
  rw [createFields, readFields, List.filter_filter]
  refine List.filter_congr fun field _ => ?_
  cases creatable : field.isCreatable omitted with
  | false => rfl
  | true => rw [Field.isReadable_of_isCreatable creatable, Bool.and_self]

/-- Whatever a caller may set, the class for reading shows as well, in the same order. -/
theorem createFields_sublist_readFields :
    (model.createFields omitted).Sublist (model.readFields omitted) := by
  rw [createFields_eq_filter]
  exact List.filter_sublist

end Model

/-- The fields of the class for reading that a caller may set, each with its property. -/
def ClassFile.shared (read : ClassFile) (model : Model) (omitted : List String) :
    List (Field × Property) :=
  ((model.readFields omitted).zip read.properties).filter fun pair => pair.1.isCreatable omitted

/-- The class for reading shows the fields of the class for creating as this one has them. -/
structure ShareFields (model : Model) (omitted : List String) (create read : ClassFile) :
    Prop where
  /-- There is a property for each field. -/
  length : read.properties.length = (model.readFields omitted).length
  fields : (read.shared model omitted).map Prod.fst = model.createFields omitted
  shown : List.Forall₂ (fun made pair => made.ShownAs pair.2 pair.1) create.properties
    (read.shared model omitted)
  once : ∀ property ∈ read.properties,
    (property.options.map SwaggerOption.render).count "readOnly: true" = 1

namespace Catalogue

theorem shownAs_of_property {catalogue : Catalogue} {field : Field} {made shown : Property}
    (isUpdatedAt : field.isUpdatedAt = false) (ofMade : catalogue.property field false = .ok made)
    (ofShown : catalogue.property field true = .ok shown) : made.ShownAs shown field := by
  obtain ⟨typing, typed, rfl⟩ := map_eq_ok_iff.mp ofMade
  obtain ⟨_, same, rfl⟩ := map_eq_ok_iff.mp ofShown
  cases typed.symm.trans same
  exact typing.shownAs isUpdatedAt

/-- The fields of the class for creating are among those of the class for reading, in
order.  Where both classes are written, such a field looks alike in both, but for a mark at
the end of its options that the class for reading adds, unless it is the identity. -/
theorem shared_fields_alike (catalogue : Catalogue) (model : Model) (omitted : List String) :
    (model.createFields omitted).Sublist (model.readFields omitted) ∧
    ∀ folder folder' create read,
      catalogue.createClass model omitted folder = .ok create →
      catalogue.readClass model omitted folder' = .ok read →
      ShareFields model omitted create read := by
  refine ⟨model.createFields_sublist_readFields omitted, ?_⟩
  intro folder folder' create read created written
  have made := properties_of_classFile created
  have shown := properties_of_classFile written
  rw [model.createFields_eq_filter] at made
  have length : read.properties.length = (model.readFields omitted).length := by
    simpa using (congrArg List.length (mapM_eq_ok_iff.mp shown)).symm
  exact
    { length := length
      fields := by
        rw [model.createFields_eq_filter]
        exact map_fst_filter_zip _ (Nat.le_of_eq length.symm)
      shown := by
        refine (forall₂_of_mapM_filter made shown).imp ?_
        rintro made ⟨field, shown⟩ ⟨creatable, ofCreate, ofRead⟩
        exact shownAs_of_property (Field.isUpdatedAt_of_isCreatable creatable) ofCreate ofRead
      once := by
        intro property mem
        obtain ⟨field, -, step⟩ := (mem_of_mapM_eq_ok shown).mp mem
        obtain ⟨typing, -, rfl⟩ := map_eq_ok_iff.mp step
        exact typing.count_readOnly field }

/-- A model with an identity and a time of change under names of its own. -/
def session : Model where
  name := "Session"
  fields :=
    [{ name := "token", type := "String", isId := true },
     { name := "createdAt", type := "DateTime" },
     { name := "touched", type := "DateTime", isUpdatedAt := true },
     { name := "roles", type := "Role", isArray := true, enumName := some "Role" },
     { name := "note", type := "String", isOptional := true, isNullable := true },
     { name := "owner", type := "Account", isRelation := true },
     { name := "secret", type := "String" }]

theorem session_shared : ∃ create read,
    (ofList [⟨"Role", ["ADMIN"]⟩]).createClass session ["secret"] (some "auth") = .ok create ∧
    (ofList [⟨"Role", ["ADMIN"]⟩]).readClass session ["secret"] (some "auth") = .ok read ∧
    (read.shared session ["secret"]).map (·.1.name) = ["token", "roles", "note"] ∧
    read.properties.length = 5 ∧
    List.Forall₂ (fun made pair => made.ShownAs pair.2 pair.1) create.properties
      (read.shared session ["secret"]) := by
  obtain ⟨create, created⟩ : ∃ create, (ofList [⟨"Role", ["ADMIN"]⟩]).createClass session
      ["secret"] (some "auth") = .ok create := ⟨_, rfl⟩
  obtain ⟨read, written⟩ : ∃ read, (ofList [⟨"Role", ["ADMIN"]⟩]).readClass session
      ["secret"] (some "auth") = .ok read := ⟨_, rfl⟩
  have share := (shared_fields_alike (ofList [⟨"Role", ["ADMIN"]⟩]) session ["secret"]).2
    (some "auth") (some "auth") create read created written
  refine ⟨create, read, created, written, ?_, share.length, share.shown⟩
  calc (read.shared session ["secret"]).map (·.1.name)
      = ((read.shared session ["secret"]).map Prod.fst).map (·.name) := List.map_map.symm
    _ = ["token", "roles", "note"] := by
        rw [share.fields]
        rfl

end Catalogue

end SchemaDto
