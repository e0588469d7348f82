/-
# Reading the text of a class

The text of a class file is joined from parts at four levels: lines, properties,
the lines of a property and the marks of a declaration.  A reader takes it apart
again: an import block up to the first empty line, a head that ends in the last
opening brace at the end of a line, and a body cut at its empty lines into
properties of two decorators and one declaration.  It finds what the file was
written from (`ClassFile.read_render`), so no separator is taken for another.

Nothing is asked of the name of the class: it may hold line breaks, braces and
lines that look like properties.  The body comes last, and no line of it opens
another one.
-/
import SchemaDto.Emit.Class
import SchemaDto.Proofs.Fallible
import SchemaDto.Proofs.Text.Lines

namespace SchemaDto

open Text

/-! ## The reader -/

/-- A declaration as read. -/
structure Declaration where
  name : String
  isMarked : Bool
  type : TsType
deriving DecidableEq, Repr

/-- A property as read: its decorators are kept as they stand. -/
structure PropertyText where
  apiDecorator : String
  check : String
  declaration : Declaration
deriving DecidableEq, Repr

/-- A class file as read. -/
structure ClassText where
  imports : List String
  name : String
  properties : List PropertyText
deriving DecidableEq, Repr

/-- Reads a type from its end: the mark of `null`, then that of arrays. -/
def TsType.read (cs : List Char) : TsType :=
  let (cs, isNullable) := stripEnd " | null".toList cs
  let (cs, isArray) := stripEnd "[]".toList cs
  ⟨String.ofList cs, isArray, isNullable⟩

/-- Reads a declaration: the label ends at the first colon. -/
def Declaration.ofLine? (line : List Char) : Option Declaration := do
  let line ← [';'].isSuffixOf? line
  let type ← ": ".toList.isPrefixOf? (line.dropWhile (· != ':'))
  let (name, isMarked) := stripEnd ['?'] (line.takeWhile (· != ':'))
  return ⟨String.ofList name, isMarked, TsType.read type⟩

/-- What stands before each line of a class body. -/
def indent : List Char := [' ', ' ']

/-- Reads a property from its three lines. -/
def PropertyText.ofLines? (lines : List (List Char)) : Option PropertyText :=
  match lines.mapM fun line => indent.isPrefixOf? line with
  | some ['@' :: api, '@' :: check, line] =>
    (Declaration.ofLine? line).map fun declaration =>
      ⟨String.ofList ('@' :: api), String.ofList ('@' :: check), declaration⟩
  | _ => none

/-- The line opens the body of a class, which may be closed at once. -/
def opensBody (line : List Char) : Bool :=
  " \x7b".toList.isSuffixOf line || " \x7b\x7d".toList.isSuffixOf line

/-- Reads the name of the class off its head, and the properties off the lines
below the head. -/
def ClassText.readClass? (head : List Char) (below : List (List Char)) :
    Option (String × List PropertyText) := do
  let head ← "export class ".toList.isPrefixOf? head
  match " \x7b\x7d".toList.isSuffixOf? head with
  | some name => if below = [[]] then some (String.ofList name, []) else none
  | none =>
    let name ← " \x7b".toList.isSuffixOf? head
    let body ← [['\x7d'], []].isSuffixOf? below
    let properties ← (body.splitOn []).mapM PropertyText.ofLines?
    return (String.ofList name, properties)

/-- Reads a class file. -/
def ClassText.read? (text : String) : Option ClassText := do
  let block := (lines text).takeWhile (· != [])
  let (head, below) ← cutAtLast opensBody ((lines text).dropWhile (· != [])).tail
  let (name, properties) ← readClass? (['\n'].intercalate head) below
  if block.all ("import ".toList.isPrefixOf ·) then
    some ⟨block.map String.ofList, name, properties⟩
  else none

/-! ## What there is to read -/

namespace Property

/-- The property as a reader finds it. -/
def parts (property : Property) : PropertyText :=
  ⟨property.apiDecorator, property.check.render,
    ⟨property.name, property.isMarked, property.type⟩⟩

/-- Its declaration as a line. -/
def declarationLine (property : Property) : String :=
  property.label ++ ": " ++ property.type.render ++ ";"

/-- Its lines in a class body. -/
def bodyLines (property : Property) : List (List Char) :=
  [property.apiDecorator, property.check.render, property.declarationLine].map
    fun line => indent ++ line.toList

/-- The parts of the property are free of the signs around them. -/
structure Legible (property : Property) : Prop where
  api : '\n' ∉ property.apiDecorator.toList
  name : FreeOf ['\n', ':', '?'] property.name
  base : FreeOf ['\n', '|', ']'] property.type.base

end Property

/-- The file as a reader finds it. -/
def ClassFile.parts (file : ClassFile) : ClassText :=
  ⟨file.imports.map Import.render, file.name, file.properties.map Property.parts⟩

/-! ## Declarations -/

theorem TsType.toList_render (type : TsType) : type.render.toList =
    (type.base.toList ++ if type.isArray then "[]".toList else []) ++
      if type.isNullable then " | null".toList else [] := by
  cases type with
  | mk base isArray isNullable =>
      cases isArray <;> cases isNullable <;> simp [TsType.render]

theorem TsType.read_render {type : TsType} (noBar : '|' ∉ type.base.toList)
    (noBracket : ']' ∉ type.base.toList) : TsType.read type.render.toList = type := by
  have inner : '|' ∉ type.base.toList ++ if type.isArray then "[]".toList else [] := by
    cases type.isArray <;> simpa using noBar
  have null := stripEnd_append " | null".toList (by decide) inner type.isNullable
  have array := stripEnd_append "[]".toList (by decide) noBracket type.isArray
  simp only [TsType.read, TsType.toList_render, null, array, String.ofList_toList]

theorem Property.ofLine?_declarationLine {property : Property} (legible : property.Legible) :
    Declaration.ofLine? property.declarationLine.toList = some property.parts.declaration := by
  have noColon := legible.name ':' (by decide)
  have noMark := legible.name '?' (by decide)
  have type := TsType.read_render (legible.base '|' (by decide)) (legible.base ']' (by decide))
  have label : property.label.toList =
      property.name.toList ++ if property.isMarked then ['?'] else [] := by
    cases h : property.isMarked <;> simp [Property.label, h]
  have labelFree : ':' ∉ property.label.toList := by
    rw [label]
    cases property.isMarked <;> simpa using noColon
  have line : property.declarationLine.toList =
      (property.label.toList ++ ':' :: (' ' :: property.type.render.toList)) ++ [';'] := by
    simp [Property.declarationLine]
  have closed : [';'].isSuffixOf? property.declarationLine.toList =
      some (property.label.toList ++ ':' :: (' ' :: property.type.render.toList)) :=
    List.isSuffixOf?_eq_some_iff_append_eq.mpr line.symm
  have joint : ": ".toList.isPrefixOf? (':' :: ' ' :: property.type.render.toList) =
      some property.type.render.toList := List.isPrefixOf?_eq_some_iff_append_eq.mpr rfl
  have marks : stripEnd ['?'] property.label.toList = (property.name.toList, property.isMarked) := by
    rw [label]
    exact stripEnd_append ['?'] (by decide) noMark property.isMarked
  obtain ⟨before, after⟩ := span_of_not_mem labelFree (' ' :: property.type.render.toList)
  simp only [Declaration.ofLine?, closed, before, after, joint, marks, type,
    Option.bind_eq_bind, Option.bind_some, String.ofList_toList]
  rfl

/-! ## Properties -/

theorem getLast?_of_opensBody {line : List Char} (opens : opensBody line = true) :
    line.getLast? = some '\x7b' ∨ line.getLast? = some '\x7d' := by
  simp only [opensBody, Bool.or_eq_true, List.isSuffixOf_iff_suffix] at opens
  rcases opens with ⟨start, rfl⟩ | ⟨start, rfl⟩
  · exact .inl (by simp)
  · exact .inr (by simp)

theorem Check.newline_not_mem_render (check : Check) : '\n' ∉ check.render.toList := by
  have name : '\n' ∉ check.validator.name.toList := by
    cases check.validator <;> decide
  have options : '\n' ∉ (check.options.getD "").toList := by
    rcases each : check.each with _ | _ | _ <;> simp [Check.options, each]
  simp only [Check.render, String.toList_append, List.mem_append, not_or]
  exact ⟨⟨⟨⟨by decide, name⟩, by decide⟩, options⟩, by decide⟩

namespace Property

variable {property : Property}

theorem newline_not_mem_declarationLine (legible : property.Legible) :
    '\n' ∉ property.declarationLine.toList := by
  have name := legible.name '\n' (by decide)
  have base := legible.base '\n' (by decide)
  have label : '\n' ∉ property.label.toList := by
    cases h : property.isMarked <;> simpa [label, h] using name
  have type : '\n' ∉ property.type.render.toList := by
    rw [TsType.toList_render]
    cases property.type.isArray <;> cases property.type.isNullable <;> simpa using base
  simpa [declarationLine] using ⟨label, type⟩

theorem toList_render (property : Property) : indent ++ property.render.toList =
    (indent ++ property.apiDecorator.toList) ++ '\n' ::
      ((indent ++ property.check.render.toList) ++ '\n' ::
        (indent ++ property.declarationLine.toList)) := by
  simp [render, decorators, declarationLine, indent, String.intercalate_cons_cons]

/-- A property stands on three lines. -/
theorem splitOn_render (legible : property.Legible) :
    (indent ++ property.render.toList).splitOn '\n' = property.bodyLines := by
  have api : '\n' ∉ indent ++ property.apiDecorator.toList := by
    simpa [indent] using legible.api
  have check : '\n' ∉ indent ++ property.check.render.toList := by
    simpa [indent] using property.check.newline_not_mem_render
  have line : '\n' ∉ indent ++ property.declarationLine.toList := by
    simpa [indent] using newline_not_mem_declarationLine legible
  rw [toList_render, List.splitOn_append_cons_self_of_not_mem api,
    List.splitOn_append_cons_self_of_not_mem check, List.splitOn_eq_singleton line]
  rfl

theorem ofLines?_bodyLines (legible : property.Legible) :
    PropertyText.ofLines? property.bodyLines = some property.parts := by
  have undent : ∀ text : List Char, indent.isPrefixOf? (indent ++ text) = some text :=
    fun text => List.isPrefixOf?_eq_some_iff_append_eq.mpr rfl
  obtain ⟨api, isApi⟩ : ∃ rest, property.apiDecorator.toList = '@' :: rest :=
    ⟨_, by simp [apiDecorator]; rfl⟩
  obtain ⟨check, isCheck⟩ : ∃ rest, property.check.render.toList = '@' :: rest :=
    ⟨_, by simp [Check.render]; rfl⟩
  have lines : (property.bodyLines.mapM fun line => indent.isPrefixOf? line) =
      some ['@' :: api, '@' :: check, property.declarationLine.toList] := by
    simp [bodyLines, undent, isApi, isCheck]
  rw [PropertyText.ofLines?, lines]
  show (Declaration.ofLine? property.declarationLine.toList).map _ = _
  rw [ofLine?_declarationLine legible, Option.map_some, ← isApi, ← isCheck, String.ofList_toList,
    String.ofList_toList]
  rfl

theorem nil_not_mem_bodyLines (property : Property) : [] ∉ property.bodyLines := by
  simp [bodyLines, indent]

/-- No line of a property opens a body: its last character is no brace. -/
theorem opensBody_of_mem_bodyLines {line : List Char} (mem : line ∈ property.bodyLines) :
    opensBody line = false := by
  have last : line.getLast? = some ')' ∨ line.getLast? = some ';' := by
    simp only [bodyLines, List.map_cons, List.map_nil, List.mem_cons, List.not_mem_nil,
      or_false] at mem
    rcases mem with rfl | rfl | rfl
    · exact .inl (by simp [apiDecorator, List.getLast?_cons])
    · exact .inl (by simp [Check.render, List.getLast?_cons])
    · exact .inr (by simp [declarationLine, List.getLast?_cons])
  rw [Bool.eq_false_iff]
  intro opens
  rcases getLast?_of_opensBody opens with brace | brace <;> simp [brace] at last

end Property

/-! ## The body -/

/-- Properties stand on lines of their own, with an empty line between two of them. -/
theorem splitOn_properties {properties : List Property} (ne : properties ≠ [])
    (legible : ∀ property ∈ properties, property.Legible) :
    (indent ++ ("\n\n  ".intercalate (properties.map Property.render)).toList).splitOn '\n' =
      [[]].intercalate (properties.map Property.bodyLines) := by
  induction properties with
  | nil => exact absurd rfl ne
  | cons first rest ih =>
      have own := Property.splitOn_render (legible first List.mem_cons_self)
      cases rest with
      | nil => simpa using own
      | cons second rest =>
          have others := ih (List.cons_ne_nil _ _)
            fun property mem => legible property (List.mem_cons_of_mem _ mem)
          have joint : indent ++
              ("\n\n  ".intercalate ((first :: second :: rest).map Property.render)).toList =
                (indent ++ first.render.toList) ++ '\n' :: ([] ++ '\n' :: (indent ++
                  ("\n\n  ".intercalate ((second :: rest).map Property.render)).toList)) := by
            simp [String.intercalate_cons_cons, indent]
          rw [joint, List.splitOn_append_cons_self, own, List.splitOn_append_cons_self, others,
            List.splitOn_nil]
          simp [List.intercalate_cons_cons]

/-- The lines of a body come apart again at its empty lines. -/
theorem mapM_ofLines? {properties : List Property} (ne : properties ≠ [])
    (legible : ∀ property ∈ properties, property.Legible) :
    (([[]].intercalate (properties.map Property.bodyLines)).splitOn []).mapM
      PropertyText.ofLines? = some (properties.map Property.parts) := by
  have noEmpty : ∀ lines ∈ properties.map Property.bodyLines, [] ∉ lines := by
    intro lines mem
    obtain ⟨property, -, rfl⟩ := List.mem_map.mp mem
    exact property.nil_not_mem_bodyLines
  rw [List.splitOn_intercalate [] noEmpty (by simpa using ne)]
  exact mapM_map_eq_some fun property mem => Property.ofLines?_bodyLines (legible property mem)

namespace ClassFile

variable {file : ClassFile}

/-- The end of the head: a body without properties is closed at once. -/
def opening (file : ClassFile) : String :=
  if file.properties.isEmpty then " \x7b\x7d" else " \x7b"

/-- The head of the class. -/
def head (file : ClassFile) : String := "export class " ++ file.name ++ file.opening

theorem toList_head (file : ClassFile) : file.head.toList =
    "export class ".toList ++ (file.name.toList ++ file.opening.toList) := by
  show ("export class " ++ file.name ++ file.opening).toList = _
  simp only [String.toList_append, List.append_assoc]

/-- The lines below the head. -/
def below (file : ClassFile) : List (List Char) :=
  if file.properties.isEmpty then [[]]
  else [[]].intercalate (file.properties.map Property.bodyLines) ++ [['\x7d'], []]

/-- The file is the import block, an empty line, the head and what is below it. -/
theorem lines_render (whole : file.partialOf = none) (imports : file.imports ≠ [])
    (block : ∀ statement ∈ file.imports, '\n' ∉ statement.render.toList)
    (legible : ∀ property ∈ file.properties, property.Legible) :
    lines file.render = file.imports.map (·.render.toList) ++
      [] :: (file.head.toList.splitOn '\n' ++ file.below) := by
  have blockText : (Import.renderAll file.imports).toList =
      ['\n'].intercalate (file.imports.map (·.render.toList)) := by
    simp [Import.renderAll, Function.comp_def]
  have blockLines : (['\n'].intercalate (file.imports.map (·.render.toList))).splitOn '\n' =
      file.imports.map (·.render.toList) := by
    refine List.splitOn_intercalate '\n' ?_ (by simpa using imports)
    intro line mem
    obtain ⟨statement, isImport, rfl⟩ := List.mem_map.mp mem
    exact block statement isImport
  have clause : file.clause = "" := by rw [clause, whole]; rfl
  cases empty : file.properties.isEmpty with
  | true =>
      have text : file.render.toList =
          ['\n'].intercalate (file.imports.map (·.render.toList)) ++ '\n' ::
            ([] ++ '\n' :: (file.head.toList ++ '\n' :: [])) := by
        simp [render, toList_head, opening, body, clause, empty, ← blockText]
      rw [lines, text, List.splitOn_append_cons_self, blockLines, List.splitOn_append_cons_self,
        List.splitOn_append_cons_self, List.splitOn_nil, below, if_pos empty]
      rfl
  | false =>
      have text : file.render.toList =
          ['\n'].intercalate (file.imports.map (·.render.toList)) ++ '\n' ::
            ([] ++ '\n' :: (file.head.toList ++ '\n' :: ((indent ++
              ("\n\n  ".intercalate (file.properties.map Property.render)).toList) ++ '\n' ::
                (['\x7d'] ++ '\n' :: [])))) := by
        simp [render, toList_head, opening, body, clause, empty, ← blockText, indent]
      have closing : ['\x7d'].splitOn '\n' = [['\x7d']] := by decide
      rw [lines, text, List.splitOn_append_cons_self, blockLines, List.splitOn_append_cons_self,
        List.splitOn_append_cons_self, List.splitOn_append_cons_self,
        splitOn_properties (by simpa using empty) legible, List.splitOn_append_cons_self,
        closing, List.splitOn_nil, below, if_neg (by simp [empty])]
      rfl

/-- No line below the head opens a body. -/
theorem opensBody_of_mem_below {line : List Char} (mem : line ∈ file.below) :
    opensBody line = false := by
  unfold below at mem
  split at mem
  · rw [List.mem_singleton.mp mem]
    rfl
  · rcases List.mem_append.mp mem with inBody | closing
    · rcases mem_of_mem_intercalate inBody with empty | ⟨_, isPart, inPart⟩
      · rw [List.mem_singleton.mp empty]
        rfl
      · obtain ⟨property, -, rfl⟩ := List.mem_map.mp isPart
        exact Property.opensBody_of_mem_bodyLines inPart
    · exact (by decide : ∀ line ∈ [['\x7d'], []], opensBody line = false) line closing

/-- The head is found as the part up to the last line that opens a body. -/
theorem cutAtLast_head (file : ClassFile) :
    cutAtLast opensBody (file.head.toList.splitOn '\n' ++ file.below) =
      some (file.head.toList.splitOn '\n', file.below) := by
  have noBreak : '\n' ∉ file.opening.toList := by
    unfold opening
    split <;> decide
  have opens : ∀ line, opensBody (line ++ file.opening.toList) = true := by
    intro line
    unfold opening
    split <;> simp [opensBody]
  obtain ⟨before, last, lines⟩ :=
    splitOn_append_free noBreak ("export class ".toList ++ file.name.toList)
  rw [toList_head, ← List.append_assoc, lines, List.append_assoc, List.singleton_append]
  exact cutAtLast_append (opens last) (fun line mem => opensBody_of_mem_below mem) before

theorem readClass?_head (legible : ∀ property ∈ file.properties, property.Legible) :
    ClassText.readClass? file.head.toList file.below =
      some (file.name, file.properties.map Property.parts) := by
  have keyword : "export class ".toList.isPrefixOf? file.head.toList =
      some (file.name.toList ++ file.opening.toList) :=
    List.isPrefixOf?_eq_some_iff_append_eq.mpr file.toList_head.symm
  cases empty : file.properties.isEmpty with
  | true =>
      have opening : file.opening = " \x7b\x7d" := if_pos empty
      have name : " \x7b\x7d".toList.isSuffixOf? (file.name.toList ++ " \x7b\x7d".toList) =
          some file.name.toList := List.isSuffixOf?_eq_some_iff_append_eq.mpr rfl
      have below : file.below = [[]] := if_pos empty
      have none : file.properties = [] := List.isEmpty_iff.mp empty
      simp only [ClassText.readClass?, keyword, opening, name, below, none, Option.bind_eq_bind,
        Option.bind_some, if_true, String.ofList_toList, List.map_nil]
  | false =>
      have opening : file.opening = " \x7b" := if_neg (by simp [empty])
      have notClosed : " \x7b\x7d".toList.isSuffixOf? (file.name.toList ++ " \x7b".toList) =
          none := by
        cases h : " \x7b\x7d".toList.isSuffixOf? (file.name.toList ++ " \x7b".toList) with
        | none => rfl
        | some rest =>
            have ends := congrArg List.getLast? (List.isSuffixOf?_eq_some_iff_append_eq.mp h)
            simp at ends
      have name : " \x7b".toList.isSuffixOf? (file.name.toList ++ " \x7b".toList) =
          some file.name.toList := List.isSuffixOf?_eq_some_iff_append_eq.mpr rfl
      have body : [['\x7d'], []].isSuffixOf? file.below =
          some ([[]].intercalate (file.properties.map Property.bodyLines)) := by
        rw [below, if_neg (by simp [empty])]
        exact List.isSuffixOf?_eq_some_iff_append_eq.mpr rfl
      have properties := mapM_ofLines? (by simpa using empty) legible
      simp only [ClassText.readClass?, keyword, opening, notClosed, name, body, properties,
        Option.bind_eq_bind, Option.bind_some, String.ofList_toList]
      rfl

/-- A class file reads back as what it was written from. -/
theorem read_render (whole : file.partialOf = none) (imports : file.imports ≠ [])
    (block : ∀ statement ∈ file.imports, '\n' ∉ statement.render.toList)
    (legible : ∀ property ∈ file.properties, property.Legible) :
    ClassText.read? file.render = some file.parts := by
  have starts : ∀ line ∈ file.imports.map (·.render.toList),
      "import ".toList.isPrefixOf line = true := by
    intro line mem
    obtain ⟨statement, -, rfl⟩ := List.mem_map.mp mem
    rw [List.isPrefixOf_iff_prefix]
    exact ⟨_, by simp [Import.render]; rfl⟩
  have noEmpty : [] ∉ file.imports.map (·.render.toList) := by
    intro mem
    exact absurd (starts [] mem) (by decide)
  obtain ⟨before, after⟩ := span_of_not_mem noEmpty (file.head.toList.splitOn '\n' ++ file.below)
  have all : (file.imports.map (·.render.toList)).all ("import ".toList.isPrefixOf ·) = true :=
    List.all_eq_true.mpr starts
  have verbatim : (file.imports.map (·.render.toList)).map String.ofList =
      file.imports.map Import.render := by
    simp [Function.comp_def]
  have lines := lines_render whole imports block legible
  simp only [ClassText.read?, lines, before, after, List.tail_cons, cutAtLast_head,
    List.intercalate_splitOn, readClass?_head legible, all, verbatim, Option.bind_eq_bind,
    Option.bind_some, if_true]
  rfl

example : ClassText.read? ("import \x7b A \x7d from 'a';\n\nexport class Post \x7b\n" ++
      "  @A()\n  @B()\n  tags?: T[] | null;\n\x7d\n") =
    some ⟨["import \x7b A \x7d from 'a';"], "Post",
      [⟨"@A()", "@B()", ⟨"tags", true, ⟨"T", true, true⟩⟩⟩]⟩ := by
  decide

end ClassFile

end SchemaDto
