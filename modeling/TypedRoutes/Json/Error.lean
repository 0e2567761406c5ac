import TypedRoutes.Json.Basic
import TypedRoutes.Text.Shown

/-!
What can be wrong with a JSON text: it breaks the grammar at a place, or it holds a value of
another shape than the reader asks for.
-/

set_option autoImplicit false
set_option relaxedAutoImplicit false

namespace TypedRoutes.Json

/-- A place in a text: the line, from 1, and the number of bytes before it on that line. -/
structure Position where
  line : Nat := 1
  column : Nat := 0
  deriving DecidableEq, Repr

inductive Fault where
  | endInValue
  | endInObject
  | endInArray
  | endInString
  | expectedValue
  | expectedWord
  | invalidNumber
  | numberOutOfRange
  | keyNotString
  | trailingComma
  | trailingCharacters
  | expectedColon
  | expectedCommaOrBrace
  | expectedCommaOrBracket
  | nestedTooDeeply
  | invalidEscape
  | loneSurrogate
  | unfinishedSurrogate
  | controlCharacter
  deriving DecidableEq, Repr

def Fault.message : Fault → String
  | .endInValue => "EOF while parsing a value"
  | .endInObject => "EOF while parsing an object"
  | .endInArray => "EOF while parsing a list"
  | .endInString => "EOF while parsing a string"
  | .expectedValue => "expected value"
  | .expectedWord => "expected ident"
  | .invalidNumber => "invalid number"
  | .numberOutOfRange => "number out of range"
  | .keyNotString => "key must be a string"
  | .trailingComma => "trailing comma"
  | .trailingCharacters => "trailing characters"
  | .expectedColon => "expected `:`"
  | .expectedCommaOrBrace => "expected `,` or `\x7d`"
  | .expectedCommaOrBracket => "expected `,` or `]`"
  | .nestedTooDeeply => "recursion limit exceeded"
  | .invalidEscape => "invalid escape"
  | .loneSurrogate => "lone leading surrogate in hex escape"
  | .unfinishedSurrogate => "unexpected end of hex escape"
  | .controlCharacter => "control character (\\u0000-\\u001F) found while parsing a string"

def Fault.isEnd : Fault → Bool
  | .endInValue => true
  | .endInObject => true
  | .endInArray => true
  | .endInString => true
  | _ => false

/-- A fault and the place where the reader met it. -/
structure SyntaxError where
  fault : Fault
  position : Position
  deriving DecidableEq, Repr

/-- What stands where something else was asked for. -/
inductive Found where
  | null
  | bool (value : Bool)
  | number (value : Number)
  | string (value : String)
  | sequence
  | map
  deriving DecidableEq, Repr

/-- The kind of a value, with the value itself where it is a scalar. -/
def found : Json → Found
  | .null => .null
  | .bool value => .bool value
  | .number value => .number value
  | .string value => .string value
  | .array _ => .sequence
  | .object _ => .map

def Found.text : Found → String
  | .null => "null"
  | .bool true => "boolean `true`"
  | .bool false => "boolean `false`"
  | .number (.integer value) => "integer `" ++ toString value ++ "`"
  | .number (.double value) => "floating point `" ++ value.text ++ "`"
  | .string value => "string " ++ Text.shown value
  | .sequence => "sequence"
  | .map => "map"

/-- How a value can differ from the shape that is asked for. -/
inductive Mismatch where
  | wrongType (found : Found) (expected : String)
  | wrongValue (found : Found) (expected : String)
  | wrongLength (length : Nat) (expected : String)
  | unknownVariant (name : String) (known : List String)
  | missingField (name : String)
  | duplicateField (name : String)
  | noVariantFits (type : String)
  deriving DecidableEq, Repr

def listKnown : List String → String
  | [] => "there are no variants"
  | [a] => "`" ++ a ++ "`"
  | [a, b] => "`" ++ a ++ "` or `" ++ b ++ "`"
  | names => "one of " ++ ", ".intercalate (names.map fun name => "`" ++ name ++ "`")

def Mismatch.message : Mismatch → String
  | .wrongType found expected => "invalid type: " ++ found.text ++ ", expected " ++ expected
  | .wrongValue found expected => "invalid value: " ++ found.text ++ ", expected " ++ expected
  | .wrongLength length expected =>
    "invalid length " ++ toString length ++ ", expected " ++ expected
  | .unknownVariant name known =>
    "unknown variant `" ++ name ++ "`, expected " ++ listKnown known
  | .missingField name => "missing field `" ++ name ++ "`"
  | .duplicateField name => "duplicate field `" ++ name ++ "`"
  | .noVariantFits type => "data did not match any variant of untagged enum " ++ type

/-- Why a JSON text or value cannot be taken. -/
inductive ReadError where
  | malformed (error : SyntaxError)
  | mismatch (error : Mismatch)
  deriving DecidableEq, Repr

def ReadError.message : ReadError → String
  | .malformed error => error.fault.message
  | .mismatch error => error.message

end TypedRoutes.Json
