import Switchyard.Text.Quoted
import Switchyard.Number.Double
import Switchyard.Number.Whole
import Switchyard.Bytes

/-!
  What can be wrong with a JSON text, and where.  A fault is reported at the line and column of the
  bytes that had been read when it was noticed.
-/

namespace Switchyard.Json

/-- A value as a message about a mismatch names it. -/
inductive Found where
  | null
  | boolean (b : Bool)
  | integer (i : Int)
  | double (x : Float)
  | string (s : String)
  | sequence
  | map

/-- The name of a value in a message. -/
def Found.text : Found → String
  | .null => "null"
  | .boolean b => "boolean `" ++ (if b then "true" else "false") ++ "`"
  | .integer i => "integer `" ++ Number.intText i ++ "`"
  | .double x => "floating point `" ++ (Number.dataText? x).getD "NaN" ++ "`"
  | .string s => "string " ++ Text.quote s
  | .sequence => "sequence"
  | .map => "map"

/-- What is wrong. -/
inductive Cause where
  | eofList
  | eofObject
  | eofString
  | eofValue
  | expectedColon
  | expectedListEnd
  | expectedObjectEnd
  | expectedWord
  | expectedValue
  | invalidEscape
  | invalidNumber
  | numberOutOfRange
  | invalidUnicode
  | controlCharacter
  | keyNotString
  | loneSurrogate
  | halfSurrogatePair
  | trailingComma
  | trailingCharacters
  | tooDeep
  | wrongType (found : Found) (expected : String)
  | wrongValue (found : Found) (expected : String)
  | wrongLength (length : Nat) (expected : String)
  | duplicateField (name : String)
  | missingField (name : String)

/-- The wording of a cause. -/
def Cause.message : Cause → String
  | .eofList => "EOF while parsing a list"
  | .eofObject => "EOF while parsing an object"
  | .eofString => "EOF while parsing a string"
  | .eofValue => "EOF while parsing a value"
  | .expectedColon => "expected `:`"
  | .expectedListEnd => "expected `,` or `]`"
  | .expectedObjectEnd => "expected `,` or `\x7d`"
  | .expectedWord => "expected ident"
  | .expectedValue => "expected value"
  | .invalidEscape => "invalid escape"
  | .invalidNumber => "invalid number"
  | .numberOutOfRange => "number out of range"
  | .invalidUnicode => "invalid unicode code point"
  | .controlCharacter => "control character (\\u0000-\\u001F) found while parsing a string"
  | .keyNotString => "key must be a string"
  | .loneSurrogate => "lone leading surrogate in hex escape"
  | .halfSurrogatePair => "unexpected end of hex escape"
  | .trailingComma => "trailing comma"
  | .trailingCharacters => "trailing characters"
  | .tooDeep => "recursion limit exceeded"
  | .wrongType found expected => "invalid type: " ++ found.text ++ ", expected " ++ expected
  | .wrongValue found expected => "invalid value: " ++ found.text ++ ", expected " ++ expected
  | .wrongLength n expected => "invalid length " ++ Number.natText n ++ ", expected " ++ expected
  | .duplicateField name => "duplicate field `" ++ name ++ "`"
  | .missingField name => "missing field `" ++ name ++ "`"

/-- A cause with the bytes that were still unread when it was noticed. -/
structure Fault where
  cause : Cause
  /-- The bytes not read yet. -/
  unread : Bytes

/-- A fault that is noticed by looking at the next byte, which then counts as read. -/
def Fault.peeked (cause : Cause) (unread : Bytes) : Fault := ⟨cause, unread.drop 1⟩

/-- The line and column of the end of some bytes: lines count from one, columns from the last line
    break. -/
def position (read : Bytes) : Nat × Nat :=
  read.foldl
    (fun (p : Nat × Nat) (b : UInt8) => if b = 10 then (p.1 + 1, 0) else (p.1, p.2 + 1))
    (1, 0)

/-- The message of a fault in a text. -/
def Fault.message (f : Fault) (whole : Bytes) : String :=
  let (line, column) := position (whole.take (whole.length - f.unread.length))
  f.cause.message ++ " at line " ++ Number.natText line ++ " column " ++ Number.natText column

end Switchyard.Json
