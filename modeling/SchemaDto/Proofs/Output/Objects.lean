/-
# Fields that refer to records

A field of kind `object` refers to a record of another model or to a composite value.
It has no place in a class, but what keeps it out is the name of its relation, not its
kind.  A composite value has none, so its field is kept like one of a built-in type that
the table does not know: its property has the type `any` (`object_kept_iff`).
-/
import SchemaDto.Proofs.Emit.Fields
import SchemaDto.Proofs.Output.Failure

namespace SchemaDto

/-! ## Appearance of such a field -/

theorem Scalar.tsType_ofTag_of_not_mem {tag : String} (unlisted : tag ∉ table.map (·.1)) :
    (ofTag tag).tsType = "any" := by
  have absent : table.lookup tag = none := by
    rw [List.lookup_eq_none_iff]
    intro entry mem
    rw [bne_iff_ne]
    rintro rfl
    exact unlisted (List.mem_map_of_mem mem)
  rw [ofTag, absent]
  rfl

namespace FieldDecl

variable {field : FieldDecl} {enums : List Enumeration}

/-- A field that refers to records is taken for one of a built-in type. -/
theorem typing_of_object (object : field.kind = .object) (catalogue : Catalogue) :
    catalogue.typing (field.resolve enums) = .ok (field.resolve enums).scalarTyping := by
  have noEnum : (field.resolve enums).enumName = none := if_neg (by rw [object]; decide)
  simp only [Catalogue.typing, noEnum]

/-- The class has a property for the field, with the TypeScript type of its type name
among the built-in types. -/
def ShownIn (field : FieldDecl) (cls : ClassFile) : Prop :=
  ∃ property ∈ cls.properties, property.name = field.name ∧
    property.type = ⟨(Scalar.ofTag field.type).tsType, field.isList, false⟩

theorem shownIn_of_classFile (object : field.kind = .object) {catalogue : Catalogue}
    {name : String} {fields : List Field} {readOnly : Bool} {folder : Option String}
    {cls : ClassFile} (h : catalogue.classFile name fields readOnly folder = .ok cls)
    (kept : field.resolve enums ∈ fields) : field.ShownIn cls := by
  obtain ⟨property, isProperty, step⟩ :=
    exists_of_mapM_eq_ok (Catalogue.properties_of_classFile h) kept
  rw [Catalogue.property, typing_of_object object] at step
  cases step
  have notNull : (field.resolve enums).isNullable = false := by simp [resolve, object]
  have type : ((field.resolve enums).scalarTyping.property (field.resolve enums) readOnly).type =
      ⟨(Scalar.ofTag field.type).tsType, field.isList, (field.resolve enums).isNullable⟩ := rfl
  exact ⟨_, isProperty, rfl, notNull ▸ type⟩

end FieldDecl

/-! ## Which of them are kept -/

namespace ModelDecl

variable {model : ModelDecl} {field : FieldDecl}

/-- A field that refers to records is among the fields of a class exactly if it names no
relation and nothing else keeps it out.  It is then a property of the class: one of type
`any`, unless its type is called like a built-in one. -/
theorem object_kept_iff (declared : field ∈ model.fields) (object : field.kind = .object)
    (enums : List Enumeration) (omitted : List String) :
    (field.resolve enums ∈ (model.resolve enums).readFields omitted ↔
      field.relationName = none ∧ field.name ∉ omitted) ∧
    (field.resolve enums ∈ (model.resolve enums).createFields omitted ↔
      field.relationName = none ∧ field.name ∉ omitted ∧ field.IsSettable) ∧
    (∀ (catalogue : Catalogue) (folder : Option String) (cls : ClassFile),
      (catalogue.readClass (model.resolve enums) omitted folder = .ok cls →
        field.resolve enums ∈ (model.resolve enums).readFields omitted → field.ShownIn cls) ∧
      (catalogue.createClass (model.resolve enums) omitted folder = .ok cls →
        field.resolve enums ∈ (model.resolve enums).createFields omitted → field.ShownIn cls)) ∧
    (field.type ∉ Scalar.table.map (·.1) → (Scalar.ofTag field.type).tsType = "any") := by
  have isField : field.resolve enums ∈ (model.resolve enums).fields :=
    List.mem_map_of_mem declared
  refine ⟨?_, ?_, fun catalogue folder cls => ⟨?_, ?_⟩, Scalar.tsType_ofTag_of_not_mem⟩
  · rw [Model.readFields, List.mem_filter, and_iff_right isField]
    exact Request.isReadable_resolve
  · rw [Model.createFields, List.mem_filter, and_iff_right isField, Request.isCreatable_resolve,
      Request.isReadable_resolve, and_assoc]
  · exact FieldDecl.shownIn_of_classFile object
  · exact FieldDecl.shownIn_of_classFile object

/-- A model with a relation and with a composite value. -/
def parcel : ModelDecl where
  name := "Parcel"
  fields :=
    [{ name := "sender", kind := .object, type := "User", relationName := some "ParcelToUser" },
     { name := "address", kind := .object, type := "Address", isRequired := true }]

theorem parcel_sender_left_out :
    parcel.fields[0].resolve [] ∉ (parcel.resolve []).readFields [] ∧
      parcel.fields[0].resolve [] ∉ (parcel.resolve []).createFields [] := by
  have declared : parcel.fields[0] ∈ parcel.fields := List.getElem_mem _
  obtain ⟨read, create, -⟩ := object_kept_iff declared rfl [] []
  have named : parcel.fields[0].relationName ≠ none := by decide
  exact ⟨fun kept => named (read.mp kept).1, fun kept => named (create.mp kept).1⟩

/-- The address of a parcel is kept in the creating and in the reading class. -/
theorem parcel_address_kept : parcel.fields[1].kind = .object ∧
    parcel.fields[1].resolve [] ∈ (parcel.resolve []).readFields [] ∧
      parcel.fields[1].resolve [] ∈ (parcel.resolve []).createFields [] ∧
        ∃ files cls, Request.run ⟨{ models := [parcel] }, .empty⟩ = .ok files ∧
          (⟨none, "create-parcel.dto.ts", .classes cls⟩ : File) ∈ files ∧
            ∃ property ∈ cls.properties, property.name = "address" ∧
              property.type = ⟨"any", false, false⟩ := by
  refine ⟨rfl, by decide, by decide, _, _, rfl, List.mem_cons_self, ?_⟩
  exact ⟨_, List.mem_cons_self, rfl, rfl⟩

end ModelDecl

end SchemaDto
