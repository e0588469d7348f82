/-
# Validators

The checks that a generated class asks for at run time, and the choice of one
for a text field from the field's name.
-/
import SchemaDto.Text.Case

namespace SchemaDto

/-- A check on the value of a property. -/
inductive Validator where
  | boolean
  | dateString
  | email
  | enumeration
  | integer
  | number
  | object
  | string
  | url
  | uuid
deriving DecidableEq, Repr, Inhabited

namespace Validator

/-- The name of the decorator that asks for the check. -/
def name : Validator → String
  | boolean => "IsBoolean"
  | dateString => "IsDateString"
  | email => "IsEmail"
  | enumeration => "IsEnum"
  | integer => "IsInt"
  | number => "IsNumber"
  | object => "IsObject"
  | string => "IsString"
  | url => "IsUrl"
  | uuid => "IsUUID"

/-- Every validator, in the order of their names. -/
def all : List Validator :=
  [boolean, dateString, email, enumeration, integer, number, object, string, url, uuid]

/-- The validator whose decorator has that name. -/
def ofName? (text : String) : Option Validator :=
  all.find? (·.name == text)

/-- The word stands somewhere in the text. -/
def contains (word : List Char) : List Char → Bool
  | [] => word.isEmpty
  | c :: rest => word.isPrefixOf (c :: rest) || contains word rest

/-- The name holds the word, in any letter case. -/
def mentions (word fieldName : String) : Bool :=
  contains word.toList (Text.lower fieldName).toList

/-- The name is `id` or ends in `Id`. -/
def namesIdentifier (fieldName : String) : Bool :=
  fieldName == "id" || "Id".toList.isSuffixOf fieldName.toList

/-- The validator of a text field, by its name; the first rule that applies
decides. -/
def ofFieldName (fieldName : String) : Validator :=
  if mentions "email" fieldName then email
  else if mentions "url" fieldName then url
  else if namesIdentifier fieldName then uuid
  else string

end Validator

end SchemaDto
