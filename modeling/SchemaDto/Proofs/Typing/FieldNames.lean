/-
# Validators by field name

The validator of a text field is chosen by words that the name of the field holds.  The name is
searched in lower case, by the full mapping of Unicode: characters beyond ASCII may become ASCII
letters, one of them two characters, and the form of a capital sigma depends on its neighbours.
None of this brings about or destroys a word that has no k and does not end in i
(`infix_lowerFrom_iff`), so `email` and `url` are found exactly where the name spells them in
some ASCII letter case, and the rules apply in their order (`validator_by_name`).
-/
import SchemaDto.Proofs.Text.LowerForms
import SchemaDto.Proofs.Text.Split
import SchemaDto.Typing.Basic

namespace SchemaDto

namespace Text

/-! ## Words in the lower-case form of a text -/

/-- Lower-casing neither brings the word about nor destroys it: the word is written in ASCII,
without the form of the Kelvin sign, and goes on after the first form of the dotted capital I. -/
structure IsSteady (word : List Char) : Prop where
  ascii : ∀ x ∈ word, x.toNat < 128 ∧ x ≠ 'k'
  last : word.getLast? ≠ some 'i'

theorem isSteady_iff {word : List Char} : IsSteady word ↔
    (word.all fun x => x.toNat < 128 ∧ x ≠ 'k') = true ∧ word.getLast? ≠ some 'i' := by
  rw [List.all_eq_true]
  simp only [decide_eq_true_eq]
  exact ⟨fun h => ⟨h.ascii, h.last⟩, fun ⟨ascii, last⟩ => ⟨ascii, last⟩⟩

instance (word : List Char) : Decidable (IsSteady word) := decidable_of_iff' _ isSteady_iff

theorem IsSteady.tail {x : Char} {rest : List Char} (h : IsSteady (x :: rest)) : IsSteady rest where
  ascii := fun y mem => h.ascii y (List.mem_cons_of_mem _ mem)
  last := by
    cases rest with
    | nil => simp
    | cons y rest => simpa using h.last

section Word

variable {word : List Char} (steady : IsSteady word)

include steady

/-- The word does not begin in the two forms of the dotted capital I. -/
theorem not_prefix_dotted (some : word ≠ []) (cs : List Char) :
    ¬word <+: 'i' :: '\u0307' :: cs ∧ ¬word <+: '\u0307' :: cs := by
  cases word with
  | nil => exact absurd rfl some
  | cons x rest =>
      have noDot : ∀ y ∈ x :: rest, y ≠ '\u0307' := by
        rintro y mem rfl
        exact absurd (steady.ascii _ mem).1 (by decide)
      rw [List.cons_prefix_cons, List.cons_prefix_cons]
      constructor
      · rintro ⟨rfl, begins⟩
        cases rest with
        | nil => exact steady.last rfl
        | cons y rest =>
            have dot : y = '\u0307' := (List.cons_prefix_cons.mp begins).1
            exact noDot y (List.mem_cons_of_mem _ List.mem_cons_self) dot
      · rintro ⟨dot, -⟩
        exact noDot x List.mem_cons_self dot

/-- The lower-case form of a text begins with a word where the text does, in some ASCII letter
case. -/
theorem prefix_lowerFrom_iff (before cs : List Char) :
    word <+: lowerFrom before cs ↔ word <+: cs.map Char.toLower := by
  induction word generalizing before cs with
  | nil => simp
  | cons x rest ih =>
      cases cs with
      | nil => rfl
      | cons c after =>
          obtain ⟨ascii, notK⟩ := steady.ascii x List.mem_cons_self
          have notBeyond : 128 ≤ c.toNat → x ≠ c.toLower := by
            rintro beyond rfl
            rw [toLower_eq_self (by omega)] at ascii
            omega
          rw [lowerFrom, List.map_cons]
          rcases lowerAt_cases before c after with ⟨dotted, form⟩ | ⟨d, form, rule⟩
          · have beyond : 128 ≤ c.toNat := by
              rw [dotted]
              decide
            refine iff_of_false ?_ fun begins => ?_
            · rw [form]
              exact (not_prefix_dotted steady (List.cons_ne_nil x rest) _).1
            · exact notBeyond beyond (List.cons_prefix_cons.mp begins).1
          · rw [form, List.singleton_append, List.cons_prefix_cons, List.cons_prefix_cons,
              ih steady.tail]
            refine and_congr_left fun _ => ?_
            rcases rule with rfl | ⟨beyond, high | kelvin⟩
            · exact Iff.rfl
            · refine iff_of_false ?_ (notBeyond beyond)
              rintro rfl
              omega
            · refine iff_of_false ?_ (notBeyond beyond)
              rintro rfl
              exact notK kelvin

/-- The lower-case form of a text holds a word where the text does, in some ASCII letter case. -/
theorem infix_lowerFrom_iff (some : word ≠ []) (before cs : List Char) :
    word <:+: lowerFrom before cs ↔ word <:+: cs.map Char.toLower := by
  induction cs generalizing before with
  | nil => rfl
  | cons c after ih =>
      have here := prefix_lowerFrom_iff steady before (c :: after)
      rw [List.map_cons, List.infix_cons_iff, ← List.map_cons, ← here, ← ih (c :: before)]
      rcases lowerAt_cases before c after with ⟨-, form⟩ | ⟨d, form, -⟩
      · -- the second of two forms begins no word, and the rest is that of the text
        have noDot := (not_prefix_dotted steady some (lowerFrom (c :: before) after)).2
        rw [lowerFrom, form, List.cons_append, List.singleton_append, List.infix_cons_iff]
        exact or_congr_right (List.infix_cons_iff.trans (or_iff_right noDot))
      · rw [lowerFrom, form, List.singleton_append, List.infix_cons_iff]

end Word

/-- The text spells the word somewhere, in some ASCII letter case. -/
def Spells (text word : String) : Prop := ∃ part, IsCased word part ∧ Within part text

theorem spells_iff {text word : String} :
    Spells text word ↔ word.toList <:+: text.toList.map Char.toLower := by
  constructor
  · rintro ⟨part, cased, before, after, rfl⟩
    refine ⟨before.toList.map Char.toLower, after.toList.map Char.toLower, ?_⟩
    rw [String.toList_append, String.toList_append, List.map_append, List.map_append, cased]
  · rintro ⟨before, after, eq⟩
    obtain ⟨front, rest, split, upTo, -⟩ := List.map_eq_append_iff.mp eq.symm
    obtain ⟨first, part, split', -, cased⟩ := List.map_eq_append_iff.mp upTo
    refine ⟨String.ofList part, ?_, String.ofList first, String.ofList rest, ?_⟩
    · rw [IsCased, String.toList_ofList, cased]
    · rw [← String.ofList_append, ← String.ofList_append, ← split', ← split,
        String.ofList_toList]

end Text

namespace Validator

open Text

theorem contains_iff {word cs : List Char} : contains word cs = true ↔ word <:+: cs := by
  induction cs with
  | nil => simp [contains]
  | cons c rest ih =>
      rw [contains, Bool.or_eq_true, List.isPrefixOf_iff_prefix, ih, List.infix_cons_iff]

theorem mentions_iff {word : String} (steady : IsSteady word.toList) (some : word ≠ "")
    (name : String) : mentions word name = true ↔ Spells name word := by
  have some : word.toList ≠ [] := fun nil => some (String.toList_inj.mp nil)
  rw [mentions, contains_iff, lower, String.toList_ofList, infix_lowerFrom_iff steady some,
    spells_iff]

theorem mentions_email_iff {name : String} :
    mentions "email" name = true ↔ Spells name "email" :=
  mentions_iff (by decide) (by decide) name

theorem mentions_url_iff {name : String} : mentions "url" name = true ↔ Spells name "url" :=
  mentions_iff (by decide) (by decide) name

theorem namesIdentifier_iff {name : String} :
    namesIdentifier name = true ↔ name = "id" ∨ ∃ stem, name = stem ++ "Id" := by
  rw [namesIdentifier, Bool.or_eq_true, beq_iff_eq, List.isSuffixOf_iff_suffix]
  refine or_congr_right ?_
  constructor
  · rintro ⟨stem, eq⟩
    refine ⟨String.ofList stem, String.toList_inj.mp ?_⟩
    rw [String.toList_append, String.toList_ofList, eq]
  · rintro ⟨stem, rfl⟩
    exact ⟨stem.toList, (String.toList_append ..).symm⟩

/-- The validator that the rules give the text field of that name.  The first rule that applies
decides. -/
inductive Suits (name : String) : Validator → Prop
  | email : Spells name "email" → Suits name .email
  | url : ¬Spells name "email" → Spells name "url" → Suits name .url
  | uuid : ¬Spells name "email" → ¬Spells name "url" → name = "id" ∨ (∃ stem, name = stem ++ "Id") →
      Suits name .uuid
  | string : ¬Spells name "email" → ¬Spells name "url" →
      ¬(name = "id" ∨ ∃ stem, name = stem ++ "Id") → Suits name .string

theorem suits_ofFieldName (name : String) : Suits name (ofFieldName name) := by
  rw [ofFieldName]
  split
  · next isEmail => exact .email (mentions_email_iff.mp isEmail)
  · next notEmail =>
      have notEmail := mt mentions_email_iff.mpr notEmail
      split
      · next isUrl => exact .url notEmail (mentions_url_iff.mp isUrl)
      · next notUrl =>
          have notUrl := mt mentions_url_iff.mpr notUrl
          split
          · next isId => exact .uuid notEmail notUrl (namesIdentifier_iff.mp isId)
          · next notId => exact .string notEmail notUrl (mt namesIdentifier_iff.mpr notId)

theorem ofFieldName_of_suits {name : String} {validator : Validator}
    (h : Suits name validator) : ofFieldName name = validator := by
  cases h with
  | email isEmail => rw [ofFieldName, if_pos (mentions_email_iff.mpr isEmail)]
  | url notEmail isUrl =>
      rw [ofFieldName, if_neg (mt mentions_email_iff.mp notEmail),
        if_pos (mentions_url_iff.mpr isUrl)]
  | uuid notEmail notUrl isId =>
      rw [ofFieldName, if_neg (mt mentions_email_iff.mp notEmail),
        if_neg (mt mentions_url_iff.mp notUrl), if_pos (namesIdentifier_iff.mpr isId)]
  | string notEmail notUrl notId =>
      rw [ofFieldName, if_neg (mt mentions_email_iff.mp notEmail),
        if_neg (mt mentions_url_iff.mp notUrl), if_neg (mt namesIdentifier_iff.mp notId)]

theorem typing_of_enumName_eq_none {catalogue : Catalogue} {field : Field}
    (h : field.enumName = none) : catalogue.typing field = .ok field.scalarTyping := by
  rw [Catalogue.typing, h]

theorem scalarValidator_eq (field : Field) : field.scalarValidator =
    if field.type = "String" then ofFieldName field.name
    else (Scalar.table.lookup field.type).elim string (·.validator) := by
  rw [Field.scalarValidator, Scalar.ofTag]
  cases Scalar.table.lookup field.type <;> rfl

/-- The name of a text field decides on its validator by rules that do not look at letter case
beyond ASCII, and a field that refers to no enumeration has the validator of its name where its
type is `String`, and that of the table otherwise. -/
theorem validator_by_name :
    (∀ name validator, ofFieldName name = validator ↔ Suits name validator) ∧
    ∀ (catalogue : Catalogue) (field : Field), field.enumName = none →
      ∃ typing, catalogue.typing field = .ok typing ∧ typing.validator =
        if field.type = "String" then ofFieldName field.name
        else (Scalar.table.lookup field.type).elim string (·.validator) := by
  refine ⟨fun name validator => ⟨?_, ofFieldName_of_suits⟩, fun catalogue field builtIn => ?_⟩
  · rintro rfl
    exact suits_ofFieldName name
  · exact ⟨_, typing_of_enumName_eq_none builtIn, scalarValidator_eq field⟩

/-- The dotted capital I hides a word, a capital sigma beside it does not. -/
theorem names_judged :
    Suits "emaİl" .string ∧ ofFieldName "workEMailΣ" = .email ∧
    (∃ typing, Catalogue.empty.typing { name := "authorId", type := "String" } = .ok typing ∧
      typing.validator = .uuid) ∧
    ∃ typing, Catalogue.empty.typing { name := "mailUrl", type := "Json" } = .ok typing ∧
      typing.validator = .object := by
  obtain ⟨rules, validators⟩ := validator_by_name
  have email : Spells "workEMailΣ" "email" := ⟨"EMail", by decide, "work", "Σ", by decide⟩
  refine ⟨(rules _ _).mp (by decide +kernel), (rules _ _).mpr (.email email), ?_, ?_⟩
  · obtain ⟨typing, typed, validator⟩ :=
      validators .empty { name := "authorId", type := "String" } rfl
    exact ⟨typing, typed, validator.trans (by decide +kernel)⟩
  · obtain ⟨typing, typed, validator⟩ :=
      validators .empty { name := "mailUrl", type := "Json" } rfl
    exact ⟨typing, typed, validator.trans (by decide +kernel)⟩

end Validator

end SchemaDto
