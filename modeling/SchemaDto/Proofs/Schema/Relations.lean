/-
# Marks of a resolved field

Resolving decides from the kind of a field whether its value may be `null`, which
enumeration it refers to and how many records it leads to, but from the name of a relation
whether it is one.  Nothing that a document says ties the two together.  What depends on the
kind alone always fits together; the rest does exactly if the fields of kind `object` are
those with the name of a relation (`coherent_resolve_iff`).
-/
import SchemaDto.Proofs.Schema.Rendering
import SchemaDto.Schema.Model

namespace SchemaDto

namespace Field

/-- What may be `null` is an optional value of a built-in type other than `Boolean`: it
refers to no enumeration and leads to no records. -/
structure NullsBuiltIn (field : Field) : Prop where
  optional : field.isNullable = true → field.isOptional = true
  noEnum : field.isNullable = true → field.enumName = none
  noRecords : field.isNullable = true → field.cardinality = none
  notBoolean : field.isNullable = true → field.type ≠ booleanTag

/-- A field that leads to records leads to many of them exactly if it is a list. -/
def CountsRecords (field : Field) : Prop :=
  ∀ cardinality ∈ field.cardinality, cardinality = .many ↔ field.isArray = true

/-- All marks of the field fit together: those of a relation are there or not there at once,
and no relation may be `null`. -/
structure Coherent (field : Field) : Prop extends field.NullsBuiltIn where
  notRelation : field.isNullable = true → field.isRelation = false
  relation : field.cardinality.isSome = true ↔ field.isRelation = true
  many : field.CountsRecords

end Field

namespace FieldDecl

variable (enums : List Enumeration) (decl : FieldDecl)

/-! ## What the kind decides -/

theorem isNullable_resolve_iff : (decl.resolve enums).isNullable = true ↔
    decl.kind = .scalar ∧ decl.type ≠ booleanTag ∧ decl.isRequired = false := by
  simp [resolve, and_assoc]

theorem isSome_cardinality_resolve :
    (decl.resolve enums).cardinality.isSome = true ↔ decl.kind = .object := by
  by_cases object : decl.kind = .object <;> simp [resolve, object]

theorem nullsBuiltIn_resolve : (decl.resolve enums).NullsBuiltIn := by
  have scalar : (decl.resolve enums).isNullable = true → decl.kind = .scalar :=
    fun null => ((decl.isNullable_resolve_iff enums).mp null).1
  constructor
  · intro null
    obtain ⟨-, -, notRequired⟩ := (decl.isNullable_resolve_iff enums).mp null
    simp [resolve, notRequired]
  · intro null
    exact if_neg (by rw [scalar null]; decide)
  · intro null
    exact if_neg (by rw [scalar null]; decide)
  · intro null
    exact ((decl.isNullable_resolve_iff enums).mp null).2.1

theorem countsRecords_resolve : (decl.resolve enums).CountsRecords := by
  intro cardinality given
  by_cases object : decl.kind = .object
  · have eq : (if decl.isList then Cardinality.many else .one) = cardinality := by
      simpa [resolve, object] using given
    rw [← eq]
    cases isList : decl.isList <;> simp [resolve, isList]
  · simp [resolve, object] at given

/-! ## What the name of a relation decides -/

/-- The marks of a resolved field fit together exactly if the name of a relation stands at
fields of kind `object` and only there.  What the kind alone decides is right in any case. -/
theorem coherent_resolve_iff : (decl.resolve enums).NullsBuiltIn ∧
    (decl.resolve enums).CountsRecords ∧
    ((decl.resolve enums).Coherent ↔ (decl.kind = .object ↔ decl.relationName.isSome = true)) := by
  have builtIn := decl.nullsBuiltIn_resolve enums
  have counts := decl.countsRecords_resolve enums
  refine ⟨builtIn, counts, ?_⟩
  constructor
  · intro coherent
    rw [← decl.isSome_cardinality_resolve enums]
    exact coherent.relation
  · intro named
    have notRelation : (decl.resolve enums).isNullable = true →
        (decl.resolve enums).isRelation = false := by
      intro null
      have scalar := ((decl.isNullable_resolve_iff enums).mp null).1
      refine Bool.eq_false_iff.mpr fun relation => ?_
      have object := named.mpr relation
      rw [scalar] at object
      cases object
    exact
      { toNullsBuiltIn := builtIn
        notRelation := notRelation
        relation := (decl.isSome_cardinality_resolve enums).trans named
        many := counts }

/-! ## Fields whose marks do not fit -/

/-- Every field is what some text decodes to, so a document may declare any combination of
kind, type, list and name of a relation. -/
theorem exists_text : ∃ text : String,
    Json.decode FieldDecl.record.decoder (Text.bytes text) = .ok decl := by
  obtain ⟨node, text, renders, written⟩ := form_total.exists_text (by decide) decl
  exact ⟨text, Json.decode_of_reads record_fits.reads renders written⟩

/-- A composite value: it leads to a record, and there is no relation to name. -/
def address : FieldDecl :=
  { name := "address", kind := .object, type := "Address", isRequired := true }

/-- An optional text that names a relation. -/
def remark : FieldDecl :=
  { name := "remark", type := "String", relationName := some "ParcelToUser" }

/-- A composite value has a cardinality and is no relation, and the text that names a
relation is one and may be `null`. -/
theorem address_and_remark_incoherent :
    ((∃ text, Json.decode FieldDecl.record.decoder (Text.bytes text) = .ok address) ∧
      (address.resolve []).cardinality = some .one ∧ (address.resolve []).isRelation = false ∧
        ¬(address.resolve []).Coherent) ∧
    ((∃ text, Json.decode FieldDecl.record.decoder (Text.bytes text) = .ok remark) ∧
      (remark.resolve []).isNullable = true ∧ (remark.resolve []).isRelation = true ∧
        ¬(remark.resolve []).Coherent) := by
  refine ⟨⟨address.exists_text, rfl, rfl, fun coherent => ?_⟩,
    ⟨remark.exists_text, rfl, rfl, fun coherent => ?_⟩⟩
  · exact absurd (coherent.relation.mp rfl) (by decide)
  · exact absurd (coherent.notRelation rfl) (by decide)

end FieldDecl

end SchemaDto
