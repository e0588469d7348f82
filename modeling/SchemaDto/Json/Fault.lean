/-
# Faults of a text

Why a text cannot be decoded: it is malformed, or it is well-formed so far and
its shape is wrong.  Of several faults the first one in the text counts.
-/
import SchemaDto.Json.Numeral
import SchemaDto.Text.Quoted

namespace SchemaDto.Json

/-- What stands in a text. -/
inductive Found where
  | null
  | bool (value : Bool)
  | number (value : Number)
  | text (value : String)
  | sequence
  | map
deriving DecidableEq, Repr

/-- What should stand there. -/
inductive Expected where
  | text
  | boolean
  | sequence
  | map
  /-- Nothing but `null`. -/
  | unit
  | record (name : String)
deriving DecidableEq, Repr

/-- A wrong shape. -/
inductive Mismatch where
  | invalidType (found : Found) (expected : Expected)
  | missingField (key : String)
  | duplicateField (key : String)
  /-- An array ends before the element of a record that must be there. -/
  | invalidLength (length : Nat) (record : String) (fields : Nat)
  | unknownVariant (name : String) (known : List String)
  /-- The value of an option is neither a text nor a list of texts. -/
  | notAnOption
deriving DecidableEq, Repr

/-- Why a text cannot be decoded. -/
inductive Fault where
  | malformed
  | mismatch (reason : Mismatch)
deriving DecidableEq, Repr

/-! ## Wording -/

/-- A text between backticks. -/
def ticked (text : String) : String := "`" ++ text ++ "`"

/-- The wording of a number. -/
def Number.message : Number → String
  | integer value => "integer " ++ ticked (toString value)
  | double negative magnitude =>
    "floating point " ++ ticked ((if negative then "-" else "") ++ magnitude.text)

/-- The wording of what stands in a text. -/
def Found.message : Found → String
  | null => "null"
  | bool value => "boolean " ++ ticked (if value then "true" else "false")
  | number value => value.message
  | text value => "string " ++ Text.quoted value
  | sequence => "sequence"
  | map => "map"

/-- The wording of what should stand there. -/
def Expected.message : Expected → String
  | text => "a string"
  | boolean => "a boolean"
  | sequence => "a sequence"
  | map => "a map"
  | unit => "unit"
  | record name => "struct " ++ name

/-- The wording of a choice between names. -/
def choiceMessage : List String → String
  | [only] => ticked only
  | [first, second] => ticked first ++ " or " ++ ticked second
  | names => "one of " ++ ", ".intercalate (names.map ticked)

/-- The wording of a number of elements. -/
def elementsMessage (count : Nat) : String :=
  toString count ++ if count = 1 then " element" else " elements"

/-- The wording of a wrong shape. -/
def Mismatch.message : Mismatch → String
  | invalidType found expected =>
    "invalid type: " ++ found.message ++ ", expected " ++ expected.message
  | missingField key => "missing field " ++ ticked key
  | duplicateField key => "duplicate field " ++ ticked key
  | invalidLength length record fields =>
    "invalid length " ++ toString length ++ ", expected struct " ++ record ++ " with " ++
      elementsMessage fields
  | unknownVariant name known =>
    "unknown variant " ++ ticked name ++ ", expected " ++ choiceMessage known
  | notAnOption => "data did not match any variant of untagged enum RawOption"

end SchemaDto.Json
