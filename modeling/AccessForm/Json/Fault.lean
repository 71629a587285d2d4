import AccessForm.Json.Head

/-!
# Faults of JSON texts

Why a text could not be read: it ends too early, it breaks the grammar, or it is well-formed but
holds something else than what was asked for. A text is read from left to right and reading stops
at the first fault.
-/

namespace AccessForm.Json

/-- The three ways in which a text is at fault. -/
inductive Category where
  | eof
  | syntactic
  | data
  deriving DecidableEq, Repr

/-- Why a text could not be read. -/
inductive Fault where
  | endInList
  | endInObject
  | endInText
  | endInValue
  | expectedColon
  | expectedListEnd
  | expectedObjectEnd
  | expectedLiteral
  | expectedValue
  | invalidEscape
  | invalidNumber
  | numberOutOfRange
  | loneSurrogate
  | unfinishedPair
  | controlCharacter
  | keyNotText
  | trailingComma
  | trailingCharacters
  | wrongType (found : Head) (wanted : Shape)
  | unknownField (name : String)
  | repeatedField (name : String)
  | unknownVariant (name : String)
  deriving DecidableEq, Repr

namespace Fault

/-- The category of a fault. -/
def category : Fault → Category
  | endInList | endInObject | endInText | endInValue => .eof
  | wrongType .. | unknownField _ | repeatedField _ | unknownVariant _ => .data
  | _ => .syntactic

/-- The wording of a fault. -/
def message : Fault → String
  | endInList => "EOF while parsing a list"
  | endInObject => "EOF while parsing an object"
  | endInText => "EOF while parsing a string"
  | endInValue => "EOF while parsing a value"
  | expectedColon => "expected `:`"
  | expectedListEnd => "expected `,` or `]`"
  | expectedObjectEnd => "expected `,` or `\x7d`"
  | expectedLiteral => "expected ident"
  | expectedValue => "expected value"
  | invalidEscape => "invalid escape"
  | invalidNumber => "invalid number"
  | numberOutOfRange => "number out of range"
  | loneSurrogate => "lone leading surrogate in hex escape"
  | unfinishedPair => "unexpected end of hex escape"
  | controlCharacter => "control character (\\u0000-\\u001F) found while parsing a string"
  | keyNotText => "key must be a string"
  | trailingComma => "trailing comma"
  | trailingCharacters => "trailing characters"
  | wrongType found wanted => "invalid type: " ++ found.describe ++ ", expected " ++ wanted.describe
  | unknownField name =>
    "unknown field `" ++ name ++
      "`, expected one of `strategy`, `argument_name`, `ignored_name`, `busy_class`"
  | repeatedField name => "duplicate field `" ++ name ++ "`"
  | unknownVariant name => "unknown variant `" ++ name ++ "`, expected `disable` or `rename`"

end Fault

end AccessForm.Json
