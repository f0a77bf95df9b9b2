/-!
# Faults of a JSON document

A fault is a cause and a place: the number of bytes that had been read when it was noticed.  Its
message names the line of that place and the number of bytes read of that line.
-/

namespace CodeAudit
namespace Json

/-- Why a document is refused. -/
inductive Cause where
  | endInValue
  | endInText
  | endInList
  | endInObject
  | expectedValue
  | expectedWord
  | expectedColon
  | expectedListEnd
  | expectedObjectEnd
  | keyIsNoText
  | trailingComma
  | trailingCharacters
  | invalidNumber
  | numberOutOfRange
  | invalidEscape
  | controlCharacter
  | loneSurrogate
  | unfinishedSurrogate
  | tooDeep
  | wrongKind (found expected : String)
  | wrongLength (found : Nat) (expected : String)
  | missingField (name : String)
  | repeatedField (name : String)
  | unknownLabel (label : String)
  deriving DecidableEq

/-- The wording of a cause. -/
def Cause.message : Cause → String
  | .endInValue => "EOF while parsing a value"
  | .endInText => "EOF while parsing a string"
  | .endInList => "EOF while parsing a list"
  | .endInObject => "EOF while parsing an object"
  | .expectedValue => "expected value"
  | .expectedWord => "expected ident"
  | .expectedColon => "expected `:`"
  | .expectedListEnd => "expected `,` or `]`"
  | .expectedObjectEnd => "expected `,` or `\x7d`"
  | .keyIsNoText => "key must be a string"
  | .trailingComma => "trailing comma"
  | .trailingCharacters => "trailing characters"
  | .invalidNumber => "invalid number"
  | .numberOutOfRange => "number out of range"
  | .invalidEscape => "invalid escape"
  | .controlCharacter => "control character (\\u0000-\\u001F) found while parsing a string"
  | .loneSurrogate => "lone leading surrogate in hex escape"
  | .unfinishedSurrogate => "unexpected end of hex escape"
  | .tooDeep => "recursion limit exceeded"
  | .wrongKind found expected => "invalid type: " ++ found ++ ", expected " ++ expected
  | .wrongLength found expected =>
    "invalid length " ++ toString found ++ ", expected " ++ expected
  | .missingField name => "missing field `" ++ name ++ "`"
  | .repeatedField name => "duplicate field `" ++ name ++ "`"
  | .unknownLabel label => "unknown variant `" ++ label ++ "`"

/-- A cause and the number of bytes that had been read. -/
structure Fault where
  cause : Cause
  place : Nat
  deriving DecidableEq

/-- The line of a place and the number of bytes read of that line, after `line` and `column`. -/
def lineAndColumn (line column : Nat) : (bytes : Nat) → List Char → Nat × Nat
  | _, [] => (line, column)
  | bytes, c :: rest =>
    if bytes = 0 then (line, column)
    else if c = '\n' then lineAndColumn (line + 1) 0 (bytes - 1) rest
    else
      let width := min c.utf8Size bytes
      lineAndColumn line (column + width) (bytes - width) rest

/-- The message of a fault in a text. -/
def Fault.message (text : String) (fault : Fault) : String :=
  let (line, column) := lineAndColumn 1 0 fault.place text.toList
  fault.cause.message ++ " at line " ++ toString line ++ " column " ++ toString column

end Json
end CodeAudit
