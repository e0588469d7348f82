/-
# Reading the file of enumerations

The file of enumerations defines every name of the catalogue once: names stand where they
are first declared, and values are those of the last declaration.  Its text is joined from
parts at three levels: definitions, the lines of a definition and the members in them.  A
reader cuts it at the lines that close a definition, and finds the catalogue again as long
as names and values are identifiers (`read?_render`).  So the text determines the catalogue
(`declarations_recorded`).

An enumeration without values has an empty line for its members, and empty lines stand
between definitions as well.  They are told apart by where they are: a definition is closed
by a brace on a line of its own, and no other line is one.
-/
import SchemaDto.Emit.Barrel
import SchemaDto.Proofs.Fallible
import SchemaDto.Proofs.Schema.EnumValues
import SchemaDto.Proofs.Text.Lines

namespace SchemaDto

open Text

/-! ## The reader -/

namespace Enumeration

/-- Reads a member: what stands before the first blank is quoted after it. -/
def readValue? (line : List Char) : Option String := do
  let line ← "  ".toList.isPrefixOf? line
  let quoted ← " = '".toList.isPrefixOf? (line.dropWhile (· != ' '))
  let value ← "'".toList.isSuffixOf? quoted
  if value = line.takeWhile (· != ' ') then some (String.ofList value) else none

/-- Reads members from their lines: all but the last one end in a comma. -/
def readMembers? : List (List Char) → Option (List String)
  | [] => none
  | [last] => (readValue? last).map ([·])
  | line :: rest => do
    let line ← [','].isSuffixOf? line
    let value ← readValue? line
    let values ← readMembers? rest
    return value :: values

/-- Reads what stands between the braces: one empty line, or members. -/
def readValues? (lines : List (List Char)) : Option (List String) :=
  if lines = [[]] then some [] else readMembers? lines

/-- Reads a definition from the empty line before it, its head and what stands between its
braces. -/
def ofLines? : List (List Char) → Option Enumeration
  | [] :: head :: inside => do
    let name ← "export enum ".toList.isPrefixOf? head
    let name ← " \x7b".toList.isSuffixOf? name
    let values ← readValues? inside
    return ⟨String.ofList name, values⟩
  | _ => none

end Enumeration

/-- Reads a file of enumerations.  Every definition ends in a line that holds a closing
brace and nothing else, and what follows is an empty line or the end of the file. -/
def Catalogue.read? (text : String) : Option (List Enumeration) := do
  let parts ← [[[]]].isSuffixOf? (([] :: lines text).splitOn ['\x7d'])
  parts.mapM Enumeration.ofLines?

/-! ## What there is to read -/

namespace Enumeration

/-- The name stands on one line, and no value holds a line break or a blank. -/
structure Legible (enum : Enumeration) : Prop where
  name : '\n' ∉ enum.name.toList
  values : ∀ value ∈ enum.values, FreeOf ['\n', ' '] value

/-- The line that opens the definition. -/
def head (enum : Enumeration) : String := "export enum " ++ enum.name ++ " \x7b"

/-- The lines of the members. -/
def memberLines : List String → List (List Char)
  | [] => [[]]
  | [last] => [(renderEnumValue last).toList]
  | value :: rest => ((renderEnumValue value).toList ++ [',']) :: memberLines rest

/-- The lines that the reader cuts out: those of the definition up to its closing brace, and
the empty line before it. -/
def part (enum : Enumeration) : List (List Char) :=
  [] :: enum.head.toList :: memberLines enum.values

/-! ## Members -/

theorem toList_renderEnumValue (value : String) : (renderEnumValue value).toList =
    "  ".toList ++ (value.toList ++ ' ' :: ("= '".toList ++ (value.toList ++ "'".toList))) := by
  simp [renderEnumValue]

theorem readValue?_renderEnumValue {value : String} (free : FreeOf ['\n', ' '] value) :
    readValue? (renderEnumValue value).toList = some value := by
  have noBlank : ' ' ∉ value.toList := free ' ' (by decide)
  have inner : "  ".toList.isPrefixOf? (renderEnumValue value).toList =
      some (value.toList ++ ' ' :: ("= '".toList ++ (value.toList ++ "'".toList))) :=
    List.isPrefixOf?_eq_some_iff_append_eq.mpr (toList_renderEnumValue value).symm
  have quoted : " = '".toList.isPrefixOf?
      (' ' :: ("= '".toList ++ (value.toList ++ "'".toList))) =
        some (value.toList ++ "'".toList) := List.isPrefixOf?_eq_some_iff_append_eq.mpr rfl
  have last : "'".toList.isSuffixOf? (value.toList ++ "'".toList) = some value.toList :=
    List.isSuffixOf?_eq_some_iff_append_eq.mpr rfl
  obtain ⟨before, after⟩ := span_of_not_mem noBlank ("= '".toList ++ (value.toList ++ "'".toList))
  simp only [readValue?, inner, before, after, quoted, last, Option.bind_eq_bind,
    Option.bind_some, if_true, String.ofList_toList]

theorem newline_not_mem_renderEnumValue {value : String} (free : FreeOf ['\n', ' '] value) :
    '\n' ∉ (renderEnumValue value).toList := by
  have noBreak : '\n' ∉ value.toList := free '\n' (by decide)
  simpa [toList_renderEnumValue] using noBreak

/-- Every member stands on a line of its own. -/
theorem splitOn_members {values : List String} (free : ∀ value ∈ values, FreeOf ['\n', ' '] value) :
    (",\n".intercalate (values.map renderEnumValue)).toList.splitOn '\n' = memberLines values := by
  induction values with
  | nil => rfl
  | cons value rest ih =>
      obtain ⟨own, others⟩ := List.forall_mem_cons.mp free
      have line := newline_not_mem_renderEnumValue own
      cases rest with
      | nil => simpa [memberLines] using List.splitOn_eq_singleton line
      | cons second rest =>
          have lineWithComma : '\n' ∉ (renderEnumValue value).toList ++ [','] := by
            simpa using line
          have joint : (",\n".intercalate ((value :: second :: rest).map renderEnumValue)).toList =
              ((renderEnumValue value).toList ++ [',']) ++
                '\n' :: (",\n".intercalate ((second :: rest).map renderEnumValue)).toList := by
            simp [String.intercalate_cons_cons]
          rw [joint, List.splitOn_append_cons_self_of_not_mem lineWithComma, ih others]
          rfl

theorem readMembers?_memberLines {values : List String} (ne : values ≠ [])
    (free : ∀ value ∈ values, FreeOf ['\n', ' '] value) :
    readMembers? (memberLines values) = some values := by
  induction values with
  | nil => exact absurd rfl ne
  | cons value rest ih =>
      obtain ⟨own, others⟩ := List.forall_mem_cons.mp free
      have read := readValue?_renderEnumValue own
      cases rest with
      | nil => simp [memberLines, readMembers?, read]
      | cons second rest =>
          have comma : [','].isSuffixOf? ((renderEnumValue value).toList ++ [',']) =
              some (renderEnumValue value).toList :=
            List.isSuffixOf?_eq_some_iff_append_eq.mpr rfl
          have later := ih (List.cons_ne_nil _ _) others
          obtain ⟨line, lines, eq⟩ : ∃ line lines, memberLines (second :: rest) = line :: lines := by
            cases rest <;> exact ⟨_, _, rfl⟩
          rw [eq] at later
          simp only [memberLines, eq, readMembers?, comma, read, later, Option.bind_eq_bind,
            Option.bind_some]
          rfl

theorem eq_nil_or_head?_of_mem_memberLines {values : List String} {line : List Char}
    (mem : line ∈ memberLines values) : line = [] ∨ line.head? = some ' ' := by
  induction values with
  | nil => exact .inl (List.mem_singleton.mp mem)
  | cons value rest ih =>
      cases rest with
      | nil =>
          rw [List.mem_singleton.mp mem, toList_renderEnumValue]
          exact .inr rfl
      | cons second rest =>
          rcases List.mem_cons.mp mem with rfl | mem
          · rw [toList_renderEnumValue]
            exact .inr rfl
          · exact ih mem

theorem readValues?_memberLines {values : List String}
    (free : ∀ value ∈ values, FreeOf ['\n', ' '] value) :
    readValues? (memberLines values) = some values := by
  cases values with
  | nil => rfl
  | cons value rest =>
      have notEmpty : memberLines (value :: rest) ≠ [[]] := by
        cases rest <;> simp [memberLines, renderEnumValue]
      rw [readValues?, if_neg notEmpty]
      exact readMembers?_memberLines (List.cons_ne_nil _ _) free

/-! ## Definitions -/

variable {enum : Enumeration}

theorem toList_head (enum : Enumeration) :
    enum.head.toList = "export enum ".toList ++ (enum.name.toList ++ " \x7b".toList) := by
  show ("export enum " ++ enum.name ++ " \x7b").toList = _
  simp only [String.toList_append, List.append_assoc]

theorem toList_render (enum : Enumeration) : enum.render.toList =
    enum.head.toList ++ '\n' ::
      ((",\n".intercalate (enum.values.map renderEnumValue)).toList ++ '\n' :: ['\x7d']) := by
  show ("export enum " ++ enum.name ++ " \x7b\n" ++
    ",\n".intercalate (enum.values.map renderEnumValue) ++ "\n\x7d").toList = _
  simp [toList_head]

theorem ofLines?_part (legible : enum.Legible) : ofLines? enum.part = some enum := by
  have keyword : "export enum ".toList.isPrefixOf? enum.head.toList =
      some (enum.name.toList ++ " \x7b".toList) :=
    List.isPrefixOf?_eq_some_iff_append_eq.mpr enum.toList_head.symm
  have name : " \x7b".toList.isSuffixOf? (enum.name.toList ++ " \x7b".toList) =
      some enum.name.toList := List.isSuffixOf?_eq_some_iff_append_eq.mpr rfl
  simp only [ofLines?, part, keyword, name, readValues?_memberLines legible.values,
    Option.bind_eq_bind, Option.bind_some, String.ofList_toList]
  rfl

/-- Only its last line closes a definition. -/
theorem brace_not_mem_part (enum : Enumeration) : ['\x7d'] ∉ enum.part := by
  have head : enum.head.toList.head? = some 'e' := by
    rw [toList_head]
    rfl
  simp only [part, List.mem_cons, not_or]
  refine ⟨by decide, fun eq => ?_, fun mem => ?_⟩
  · rw [← eq] at head
    exact absurd head (by decide)
  · rcases eq_nil_or_head?_of_mem_memberLines mem with empty | blank
    · exact absurd empty (by decide)
    · exact absurd blank (by decide)

/-- The definition, with the empty line before it, is the part and the closing line. -/
theorem splitOn_render (legible : enum.Legible) :
    [] :: enum.render.toList.splitOn '\n' = enum.part ++ [['\x7d']] := by
  have headLine : '\n' ∉ enum.head.toList := by
    simpa [toList_head] using legible.name
  have closing : ['\x7d'].splitOn '\n' = [['\x7d']] := by decide
  rw [toList_render, List.splitOn_append_cons_self_of_not_mem headLine,
    List.splitOn_append_cons_self, splitOn_members legible.values, closing]
  rfl

end Enumeration

/-! ## The file -/

namespace Catalogue

/-- The lines of definitions: between the parts stand the closing lines. -/
theorem lines_definitions {enums : List Enumeration} (ne : enums ≠ [])
    (legible : ∀ enum ∈ enums, enum.Legible) :
    [] :: lines ("\n\n".intercalate (enums.map Enumeration.render) ++ "\n") =
      [['\x7d']].intercalate (enums.map Enumeration.part ++ [[[]]]) := by
  unfold lines
  induction enums with
  | nil => exact absurd rfl ne
  | cons enum rest ih =>
      obtain ⟨own, others⟩ := List.forall_mem_cons.mp legible
      have definition := Enumeration.splitOn_render own
      cases rest with
      | nil =>
          have text : ("\n\n".intercalate ([enum].map Enumeration.render) ++ "\n").toList =
              enum.render.toList ++ '\n' :: [] := by simp
          rw [text, List.splitOn_append_cons_self, ← List.cons_append, definition]
          simp [List.intercalate_cons_cons]
      | cons second rest =>
          -- the empty line between the two definitions belongs to the part of the second one
          have later := ih (List.cons_ne_nil _ _) others
          have text : ("\n\n".intercalate
              ((enum :: second :: rest).map Enumeration.render) ++ "\n").toList =
                enum.render.toList ++ '\n' :: ([] ++ '\n' ::
                  ("\n\n".intercalate ((second :: rest).map Enumeration.render) ++ "\n").toList) := by
            simp [String.intercalate_cons_cons]
          rw [text, List.splitOn_append_cons_self, List.splitOn_append_cons_self,
            List.splitOn_nil, List.singleton_append, later, ← List.cons_append, definition]
          simp [List.intercalate_cons_cons]

/-- A catalogue reads back from its file. -/
theorem read?_render {catalogue : Catalogue} (ne : catalogue.enums ≠ [])
    (legible : ∀ enum ∈ catalogue.enums, enum.Legible) :
    read? catalogue.render = some catalogue.enums := by
  have noBrace : ∀ part ∈ catalogue.enums.map Enumeration.part ++ [[[]]], ['\x7d'] ∉ part := by
    intro part mem
    rcases List.mem_append.mp mem with mem | mem
    · obtain ⟨enum, -, rfl⟩ := List.mem_map.mp mem
      exact enum.brace_not_mem_part
    · rw [List.mem_singleton.mp mem]
      decide
  have parts : [[[]]].isSuffixOf? (([] :: lines catalogue.render).splitOn ['\x7d']) =
      some (catalogue.enums.map Enumeration.part) := by
    rw [render, lines_definitions ne legible, List.splitOn_intercalate _ noBrace (by simp)]
    exact List.isSuffixOf?_eq_some_iff_append_eq.mpr rfl
  have read : (catalogue.enums.map Enumeration.part).mapM Enumeration.ofLines? =
      some (catalogue.enums.map id) :=
    mapM_map_eq_some fun enum mem => Enumeration.ofLines?_part (legible enum mem)
  simp only [read?, parts, Option.bind_eq_bind, Option.bind_some, read, List.map_id]

/-- Reads a file that is only there if there is something to define. -/
def readFile? (file : Option String) : Option (List Enumeration) := file.elim (some []) read?

theorem readFile?_render? {catalogue : Catalogue}
    (legible : ∀ enum ∈ catalogue.enums, enum.Legible) :
    readFile? catalogue.render? = some catalogue.enums := by
  cases empty : catalogue.enums with
  | nil =>
      have none : catalogue.render? = none := if_pos (List.isEmpty_iff.mpr empty)
      rw [none]
      rfl
  | cons first rest =>
      have ne : catalogue.enums ≠ [] := by
        rw [empty]
        exact List.cons_ne_nil _ _
      have some : catalogue.render? = some catalogue.render :=
        if_neg (by rwa [isEmpty, List.isEmpty_iff])
      rw [some, ← empty]
      exact read?_render ne legible

/-! ## Declarations and definitions -/

theorem find?_ofList_eq_some_iff {enums : List Enumeration} {name : String} {enum : Enumeration} :
    (ofList enums).find? name = some enum ↔ Enumeration.IsLast enums enum ∧ enum.name = name := by
  rw [find?_ofList]
  constructor
  · intro found
    exact ⟨Enumeration.isLast_of_find? found, Enumeration.name_of_find? found⟩
  · rintro ⟨last, rfl⟩
    exact Enumeration.find?_of_isLast last

/-- What a catalogue holds was declared. -/
theorem mem_of_mem_ofList {enums : List Enumeration} {enum : Enumeration}
    (mem : enum ∈ (ofList enums).enums) : enum ∈ enums := by
  rw [← filterMap_find?_names] at mem
  obtain ⟨name, -, found⟩ := List.mem_filterMap.mp mem
  obtain ⟨⟨before, after, eq, -⟩, -⟩ := find?_ofList_eq_some_iff.mp found
  rw [eq]
  exact List.mem_append_right _ List.mem_cons_self

/-- The catalogue and its file record what was declared. -/
structure Records (catalogue : Catalogue) (enums : List Enumeration) : Prop where
  /-- Every declared name is there once, at the place of its first declaration. -/
  names : catalogue.names = (enums.map (·.name)).eraseDups
  distinct : catalogue.names.Nodup
  /-- Exactly the names are bound, each to its last declaration. -/
  bound : ∀ name, name ∈ catalogue.names ↔ (catalogue.find? name).isSome = true
  last : ∀ name enum, catalogue.find? name = some enum ↔
    Enumeration.IsLast enums enum ∧ enum.name = name
  /-- Looking the names up leaves none of them out, so each is defined once. -/
  defined : (catalogue.names.filterMap catalogue.find?).map (·.name) = catalogue.names
  text : catalogue.render? = if enums = [] then none else
    some ("\n\n".intercalate
      ((catalogue.names.filterMap catalogue.find?).map Enumeration.render) ++ "\n")

theorem isEmpty_ofList {enums : List Enumeration} : (ofList enums).isEmpty = true ↔ enums = [] := by
  constructor
  · intro empty
    have none : (ofList enums).names = [] := by rw [names, List.isEmpty_iff.mp empty, List.map_nil]
    refine List.eq_nil_iff_forall_not_mem.mpr fun enum mem => ?_
    have declared : enum.name ∈ (ofList enums).names :=
      mem_names_ofList.mpr (List.mem_map_of_mem mem)
    exact List.not_mem_nil (none ▸ declared)
  · rintro rfl
    rfl

theorem records_ofList (enums : List Enumeration) : (ofList enums).Records enums where
  names := names_ofList enums
  distinct := (ofList enums).distinct
  bound := by
    intro name
    rw [← Option.not_isNone, Bool.not_eq_true', Bool.eq_false_iff, ne_eq, Option.isNone_iff_eq_none,
      find?_eq_none_iff, not_not]
  last := fun _ _ => find?_ofList_eq_some_iff
  defined := by rw [filterMap_find?_names]; rfl
  text := by
    rw [filterMap_find?_names]
    simp only [render?, isEmpty_ofList]
    rfl

theorem eq_of_enums_eq {first second : Catalogue} (same : first.enums = second.enums) :
    first = second := by
  cases first
  cases second
  cases same
  rfl

end Catalogue

/-! ## Identifiers -/

/-- The name and the values are identifiers. -/
def Enumeration.IsNamed (enum : Enumeration) : Prop :=
  IsIdentifier enum.name ∧ ∀ value ∈ enum.values, IsIdentifier value

instance (enum : Enumeration) : Decidable enum.IsNamed := inferInstanceAs (Decidable (_ ∧ _))

theorem Enumeration.IsNamed.legible {enum : Enumeration} (named : enum.IsNamed) :
    enum.Legible where
  name := by
    have free : FreeOf ['\n'] enum.name := named.1.freeOf (by decide)
    exact free '\n' (List.mem_singleton_self _)
  values := fun value mem => (named.2 value mem).freeOf (by decide)

namespace Catalogue

/-- The catalogue of a list of declarations and its file record every declared name once.
Where names and values are identifiers, the text of the file reads back as the catalogue, so
no other catalogue has that text. -/
theorem declarations_recorded (enums : List Enumeration) : (ofList enums).Records enums ∧
    ((∀ enum ∈ enums, enum.IsNamed) →
      readFile? (ofList enums).render? = some (ofList enums).enums ∧
      ∀ others : List Enumeration, (∀ enum ∈ others, enum.IsNamed) →
        (ofList others).render? = (ofList enums).render? → ofList others = ofList enums) := by
  have reads : ∀ enums : List Enumeration, (∀ enum ∈ enums, enum.IsNamed) →
      readFile? (ofList enums).render? = some (ofList enums).enums := by
    intro enums named
    exact readFile?_render? fun enum mem => (named enum (mem_of_mem_ofList mem)).legible
  refine ⟨records_ofList enums, fun named => ⟨reads enums named, fun others named' same => ?_⟩⟩
  have first := reads enums named
  rw [← same, reads others named'] at first
  exact eq_of_enums_eq (Option.some.inj first)

/-- Enumerations of which one is declared twice and one has no values. -/
def shipping : List Enumeration :=
  [⟨"Status", ["OPEN"]⟩, ⟨"Label", []⟩, ⟨"Size", ["SMALL", "LARGE"]⟩, ⟨"Status", ["SENT", "LOST"]⟩]

theorem shipping_recorded : (∀ enum ∈ shipping, enum.IsNamed) ∧
    (ofList shipping).names = ["Status", "Label", "Size"] ∧
    readFile? (ofList shipping).render? = some
      [⟨"Status", ["SENT", "LOST"]⟩, ⟨"Label", []⟩, ⟨"Size", ["SMALL", "LARGE"]⟩] := by
  have named : ∀ enum ∈ shipping, enum.IsNamed := by decide
  obtain ⟨records, reads⟩ := declarations_recorded shipping
  exact ⟨named, records.names, (reads named).1⟩

end Catalogue

end SchemaDto
