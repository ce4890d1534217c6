import Workshop.Json

/-!
# Issues with a request

An `Issue` says what is wrong with a value of a request and where the value stands.
-/

namespace Workshop.Schema

/-- What is wrong with a value. -/
inductive Defect where
  | missing
  /-- The value is no record. -/
  | notRecord
  /-- The body of a call is no record. -/
  | bodyNotRecord
  | unknownField
  | notText
  | textTooShort
  | textTooLong
  /-- The value is none of the words that are allowed. -/
  | notWord
  | notInteger
  /-- The text does not denote an integer. -/
  | notIntegerText
  /-- The integer has too many digits, or does not fit into 64 bits where it must. -/
  | integerTooLarge
  /-- The number has a fraction. -/
  | fraction
  | notFinite
  | notPositive
  | notBoolean
  /-- The text or the integer does not denote a truth value. -/
  | notBooleanText
  | notInstant
  /-- The year is 0, or the number leads outside the years 1 to 9999. -/
  | noSuchYear
  /-- The text does not denote an instant. -/
  | notInstantText
  /-- The value is no file. -/
  | notFile
  /-- The field may be left out but not set to nothing. -/
  | nullField (name : String)
deriving DecidableEq, Repr, Inhabited

/-- The word for a defect. -/
def Defect.word : Defect → String
  | missing => "missing"
  | notRecord => "model_type"
  | bodyNotRecord => "model_attributes_type"
  | unknownField => "extra_forbidden"
  | notText => "string_type"
  | textTooShort => "string_too_short"
  | textTooLong => "string_too_long"
  | notWord => "enum"
  | notInteger => "int_type"
  | notIntegerText => "int_parsing"
  | integerTooLarge => "int_parsing_size"
  | fraction => "int_from_float"
  | notFinite => "finite_number"
  | notPositive => "greater_than"
  | notBoolean => "bool_type"
  | notBooleanText => "bool_parsing"
  | notInstant => "datetime_type"
  | noSuchYear => "datetime_parsing"
  | notInstantText => "datetime_from_date_parsing"
  | notFile => "value_error"
  | nullField _ => "value_error"

/-- The message that goes with a defect, where the word does not say all. -/
def Defect.message? : Defect → Option String
  | notFile => some "Value error, Expected UploadFile, received: <class 'str'>"
  | nullField name => some ("Value error, " ++ name ++ " cannot be null")
  | _ => none

/-- A step on the way to a value. -/
inductive Step where
  | name (name : String)
  | index (index : Nat)
deriving DecidableEq, Repr, Inhabited

/-- The value in which an answer shows a step. -/
def Step.toJson : Step → Json
  | name s => .str s
  | index i => .int i

/-- A defect of the value at a place. -/
structure Issue where
  /-- The way to the value. -/
  place : List Step
  defect : Defect
deriving DecidableEq, Repr, Inhabited

namespace Issue

/-- The issue of a value that stands below `name`. -/
def below (name : String) (i : Issue) : Issue :=
  { i with place := .name name :: i.place }

/-- The record in which an answer shows an issue. -/
def toJson (i : Issue) : Json :=
  .obj <|
    [("loc", .arr (i.place.map Step.toJson)), ("type", .str i.defect.word)]
      ++ (i.defect.message?.map fun m => ("msg", Json.str m)).toList

end Issue

end Workshop.Schema
