/-!
# Faults of fields

A field that is refused has a fault, and a fault has a place: the names that lead to the field.
-/

namespace DiffReview

/-- Why a field is refused. -/
inductive FieldFault
  | missing
  | stringType
  | stringUnicode
  | stringTooShort
  | integerType
  | integerParsing
  | integerParsingSize
  | integerFromFloat
  | floatType
  | floatParsing
  | finiteNumber
  | boolType
  | boolParsing
  | literal
  | atLeast
  | greaterThan
  | modelType
  | pathType
deriving DecidableEq, Repr

namespace FieldFault

/-- The code of a fault. -/
def code : FieldFault → String
  | missing => "missing"
  | stringType => "string_type"
  | stringUnicode => "string_unicode"
  | stringTooShort => "string_too_short"
  | integerType => "int_type"
  | integerParsing => "int_parsing"
  | integerParsingSize => "int_parsing_size"
  | integerFromFloat => "int_from_float"
  | floatType => "float_type"
  | floatParsing => "float_parsing"
  | finiteNumber => "finite_number"
  | boolType => "bool_type"
  | boolParsing => "bool_parsing"
  | literal => "literal_error"
  | atLeast => "greater_than_equal"
  | greaterThan => "greater_than"
  | modelType => "model_type"
  | pathType => "path_type"

end FieldFault

/-- A fault at a place. -/
structure LocatedFault where
  /-- The names that lead to the field. -/
  place : List String
  /-- Why the field is refused. -/
  fault : FieldFault
deriving DecidableEq, Repr

end DiffReview
