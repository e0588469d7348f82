/-
# Two look-ups of an enumeration

The values of an enumeration are looked up twice.  Resolving a field takes the first
declaration of the name, for the field and for the enumerations of its model; the
catalogue, which the classes and the file of enumerations are written from, holds the
last one.  Where a name is declared once, the two look-ups agree.  Where it is repeated,
they agree exactly if its first and its last declaration have the same values
(`values_agree_iff`).
-/
import SchemaDto.Proofs.Schema.Catalogue
import SchemaDto.Proofs.Schema.ModelEnums
import SchemaDto.Typing.Basic

namespace SchemaDto

/-! ## The values of an enumeration -/

/-- Resolving gives the enumeration of a field these values: at the field, and at the
only entry of that name among the enumerations of the model. -/
structure ModelDecl.Resolves (enums : List Enumeration) (model : ModelDecl) (field : FieldDecl)
    (values : List String) : Prop where
  ofField : (field.resolve enums).enumValues = some values
  ofModel : (model.resolve enums).enums.filter (·.name == field.type) = [⟨field.type, values⟩]

/-- The catalogue gives the enumeration of a field these values: in the appearance of
the field, and at the only entry of that name, from which it is written out. -/
structure Catalogue.Maps (catalogue : Catalogue) (field : Field) (values : List String) :
    Prop where
  ofField : ∃ typing, catalogue.typing field = .ok typing ∧ typing.enumValues = some values
  ofCatalogue : catalogue.enums.filter (·.name == field.type) = [⟨field.type, values⟩]

namespace FieldDecl

variable {enums : List Enumeration} {model : ModelDecl} {field : FieldDecl} {enum : Enumeration}

theorem enumValues_resolve (isEnum : field.kind = .enumeration) :
    (field.resolve enums).enumValues = (Enumeration.find? enums field.type).map (·.values) :=
  if_pos isEnum

theorem resolves_of_find? (mem : field ∈ model.fields) (isEnum : field.kind = .enumeration)
    (first : Enumeration.find? enums field.type = some enum) :
    model.Resolves enums field enum.values := by
  have name := Enumeration.name_of_find? first
  have used : enum ∈ (model.resolve enums).enums :=
    (model.mem_enums_resolve enums).mpr
      ⟨⟨field, mem, isEnum, name.symm⟩, Enumeration.isFirst_of_find? first⟩
  constructor
  · rw [enumValues_resolve isEnum, first]
    rfl
  · rw [← name]
    exact Enumeration.filter_name (model.nodup_enums_resolve enums) used

theorem maps_of_find? {catalogue : Catalogue} (isEnum : field.kind = .enumeration)
    (found : catalogue.find? field.type = some enum) :
    catalogue.Maps (field.resolve enums) enum.values := by
  have name := Enumeration.name_of_find? found
  constructor
  · refine ⟨(field.resolve enums).enumTyping enum, ?_, rfl⟩
    simp only [Catalogue.typing, enumName_resolve_eq_some_iff.mpr ⟨isEnum, rfl⟩, found]
  · show catalogue.enums.filter (·.name == field.type) = [⟨field.type, enum.values⟩]
    rw [← name]
    exact Enumeration.filter_name catalogue.distinct (List.mem_of_find?_eq_some found)

end FieldDecl

namespace Document

/-- A field of a declared enumeration is resolved with the values of the first
declaration of the name, and it is written out with those of the last one.  So the two
agree on its values exactly if these declarations do. -/
theorem values_agree_iff (document : Document) {model : ModelDecl} {field : FieldDecl}
    (mem : field ∈ model.fields) (isEnum : field.kind = .enumeration)
    (declared : field.type ∈ document.enums.map (·.name)) :
    ∃ first last, Enumeration.IsFirst document.enums first ∧ first.name = field.type ∧
      Enumeration.IsLast document.enums last ∧ last.name = field.type ∧
      model.Resolves document.enums field first.values ∧
      (Catalogue.ofList document.resolve.enums).Maps (field.resolve document.enums) last.values ∧
      ((∃ values, model.Resolves document.enums field values ∧
          (Catalogue.ofList document.resolve.enums).Maps (field.resolve document.enums) values) ↔
        first.values = last.values) := by
  obtain ⟨first, isFirst⟩ := Enumeration.exists_find?_of_mem declared
  obtain ⟨last, isLast⟩ : ∃ last, Enumeration.find? document.enums.reverse field.type = some last :=
    Enumeration.exists_find?_of_mem (by simpa using declared)
  have resolves := FieldDecl.resolves_of_find? mem isEnum isFirst
  have maps : (Catalogue.ofList document.resolve.enums).Maps (field.resolve document.enums)
      last.values := by
    refine FieldDecl.maps_of_find? isEnum ?_
    rw [Catalogue.find?_ofList]
    exact isLast
  refine ⟨first, last, Enumeration.isFirst_of_find? isFirst, Enumeration.name_of_find? isFirst,
    Enumeration.isLast_of_find? isLast, Enumeration.name_of_find? isLast, resolves, maps, ?_⟩
  constructor
  · rintro ⟨values, resolved, mapped⟩
    have ofFirst : values = first.values :=
      Option.some.inj (resolved.ofField.symm.trans resolves.ofField)
    have ofLast := mapped.ofCatalogue.symm.trans maps.ofCatalogue
    simp only [List.cons.injEq, Enumeration.mk.injEq, and_true, true_and] at ofLast
    rw [← ofFirst, ofLast]
  · intro same
    exact ⟨first.values, resolves, same ▸ maps⟩

/-- A parcel that is sent in one of several ways. -/
def parcelStatus : ModelDecl where
  name := "Parcel"
  fields := [{ name := "status", kind := .enumeration, type := "Status", isRequired := true }]

/-- A document that declares the ways once, among other enumerations. -/
def singleStatus : Document where
  models := [parcelStatus]
  enums := [⟨"Size", ["SMALL", "LARGE"]⟩, ⟨"Status", ["OPEN", "SENT"]⟩, ⟨"Size", ["SMALL"]⟩]

/-- A document that declares the ways twice. -/
def repeatedStatus : Document where
  models := [parcelStatus]
  enums := [⟨"Status", ["OPEN", "SHUT"]⟩, ⟨"Status", ["SENT"]⟩]

theorem singleStatus_values_agree : ∃ values,
    parcelStatus.Resolves singleStatus.enums parcelStatus.fields[0] values ∧
      (Catalogue.ofList singleStatus.resolve.enums).Maps
        (parcelStatus.fields[0].resolve singleStatus.enums) values := by
  have mem : parcelStatus.fields[0] ∈ parcelStatus.fields := List.mem_singleton_self _
  obtain ⟨first, last, ⟨before, after, split, -⟩, name, ⟨before', after', split', -⟩, name', -, -,
    agree⟩ := singleStatus.values_agree_iff mem rfl (by decide)
  have declaredOnce : ∀ enum ∈ singleStatus.enums, enum.name = "Status" →
      enum.values = ["OPEN", "SENT"] := by decide
  have isFirst := declaredOnce first (by rw [split]; simp) name
  have isLast := declaredOnce last (by rw [split']; simp) name'
  exact agree.mpr (isFirst.trans isLast.symm)

theorem repeatedStatus_values_differ : parcelStatus.fields[0].kind = .enumeration ∧
    parcelStatus.fields[0].type ∈ repeatedStatus.enums.map (·.name) ∧
    ¬∃ values, parcelStatus.Resolves repeatedStatus.enums parcelStatus.fields[0] values ∧
      (Catalogue.ofList repeatedStatus.resolve.enums).Maps
        (parcelStatus.fields[0].resolve repeatedStatus.enums) values := by
  refine ⟨rfl, by decide, ?_⟩
  rintro ⟨values, resolved, mapped⟩
  have ofFirst : some ["OPEN", "SHUT"] = some values := resolved.ofField
  have ofLast : [(⟨"Status", ["SENT"]⟩ : Enumeration)] = [⟨"Status", values⟩] := mapped.ofCatalogue
  cases ofFirst
  exact absurd ofLast (by decide)

end Document

end SchemaDto
