/-
# Lower case and kebab case

The full lower-case mapping of Unicode.  One character becomes one or two, by itself; in a
whole text there is one rule that looks at neighbours, since a capital sigma at the end of a
word becomes the final sigma.

Kebab case is the spelling of a name in file and folder names: `UserProfile` becomes
`user-profile`.  A hyphen stands at every boundary between an ASCII lower-case and an ASCII
upper-case letter and in place of every run of blanks; everything else is only lower-cased,
character by character.
-/
import SchemaDto.Text.Basic
import SchemaDto.Text.CasedTable
import SchemaDto.Text.LowerTable

namespace SchemaDto.Text

/-! ## Lower case of a character -/

/-- The lower-case form of a character by itself.  The dotted capital I is the
only character whose form has two characters. -/
def lowerChar (c : Char) : List Char :=
  if c = 'İ' then ['i', '\u0307'] else
    match caseRuns.find? (·.covers c.toNat) with
    | some run => [Char.ofNat (c.toNat + run.shift).toNat]
    | none => [c]

/-! ## Lower case of a text -/

/-- The character lies in one of the stretches. -/
def inRanges (ranges : List (Nat × Nat)) (c : Char) : Bool :=
  ranges.any fun (first, last) => first ≤ c.toNat && c.toNat ≤ last

/-- The first character that counts is a letter with case. -/
def beginsWithLetter (cs : List Char) : Bool :=
  (cs.dropWhile (inRanges caseIgnorableRanges)).head?.any (inRanges casedRanges)

/-- The form of a capital sigma: the final one where a letter stands before it
and none after it.  The text before it is given backwards. -/
def lowerSigma (before after : List Char) : Char :=
  if beginsWithLetter before && !beginsWithLetter after then 'ς' else 'σ'

/-- The lower-case form of a character in its place.  The text before it is
given backwards. -/
def lowerAt (before : List Char) (c : Char) (after : List Char) : List Char :=
  if c = 'Σ' then [lowerSigma before after] else lowerChar c

/-- The rest of a text in lower case.  The text before it is given backwards. -/
def lowerFrom (before : List Char) : List Char → List Char
  | [] => []
  | c :: after => lowerAt before c after ++ lowerFrom (c :: before) after

/-- The text in lower case. -/
def lower (s : String) : String :=
  String.ofList (lowerFrom [] s.toList)

/-! ## Kebab case -/

/-- What stands just before the next character, as far as hyphens depend on
it. -/
inductive Before where
  | blank
  | lower
  | other
deriving DecidableEq, Repr

/-- What a character leaves behind for the one after it. -/
def Before.after (c : Char) : Before :=
  if isBlank c then .blank else if c.isLower then .lower else .other

/-- What a character is written as, given what stands before it: the first
blank of a run is a hyphen, and an upper-case letter after a lower-case one
gets a hyphen in front. -/
def kebabChar (before : Before) (c : Char) : List Char :=
  if isBlank c then
    if before = .blank then [] else ['-']
  else if c.isUpper && before == .lower then '-' :: lowerChar c
  else lowerChar c

/-- Kebab case of the rest of a name. -/
def kebabFrom : Before → List Char → List Char
  | _, [] => []
  | before, c :: rest => kebabChar before c ++ kebabFrom (.after c) rest

/-- Kebab case of a name. -/
def kebab (name : String) : String :=
  String.ofList (kebabFrom .other name.toList)

@[simp] theorem kebabFrom_nil (before : Before) : kebabFrom before [] = [] := rfl

@[simp] theorem kebabFrom_cons (before : Before) (c : Char) (rest : List Char) :
    kebabFrom before (c :: rest) = kebabChar before c ++ kebabFrom (.after c) rest := rfl

end SchemaDto.Text
