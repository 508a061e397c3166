import Scribe.Text.Utf8

/-!
# Where reading JSON stops

A reader that fails stops at a place of the text, for a cause. The place is given by the characters
that were left and the bytes of them that count as read; `Stop.locate` turns it into the line and
the column that the message shows, both counted in bytes of the whole text.
-/

namespace Scribe.Json

open Text

/-- Why a text cannot be read. -/
inductive Cause where
  | endInValue
  | endInObject
  | endInList
  | endInString
  | expectedValue
  | expectedIdent
  | expectedColon
  | expectedListEnd
  | expectedObjectEnd
  | keyNotString
  | trailingComma
  | trailingCharacters
  | invalidNumber
  | numberOutOfRange
  | invalidEscape
  | loneSurrogate
  | unfinishedPair
  | controlCharacter
  | tooDeep
  | data (reason : String)
  deriving DecidableEq, Repr

/-- The wording of a cause. -/
def Cause.message : Cause → String
  | .endInValue => "EOF while parsing a value"
  | .endInObject => "EOF while parsing an object"
  | .endInList => "EOF while parsing a list"
  | .endInString => "EOF while parsing a string"
  | .expectedValue => "expected value"
  | .expectedIdent => "expected ident"
  | .expectedColon => "expected \x60:\x60"
  | .expectedListEnd => "expected \x60,\x60 or \x60]\x60"
  | .expectedObjectEnd => "expected \x60,\x60 or \x60\x7d\x60"
  | .keyNotString => "key must be a string"
  | .trailingComma => "trailing comma"
  | .trailingCharacters => "trailing characters"
  | .invalidNumber => "invalid number"
  | .numberOutOfRange => "number out of range"
  | .invalidEscape => "invalid escape"
  | .loneSurrogate => "lone leading surrogate in hex escape"
  | .unfinishedPair => "unexpected end of hex escape"
  | .controlCharacter => "control character (\\u0000-\\u001F) found while parsing a string"
  | .tooDeep => "recursion limit exceeded"
  | .data reason => reason

/-- Where and why a reader stops. A fault of the data has no place until the value around it is
left. -/
structure Stop where
  cause : Cause
  rest : List Char
  ahead : Nat
  placed : Bool
  deriving DecidableEq, Repr

/-- Move through bytes: a line feed starts a line, any other byte takes a column. -/
def advance (place : Nat × Nat) (b : UInt8) : Nat × Nat :=
  if b = 10 then (place.1 + 1, 0) else (place.1, place.2 + 1)

/-- The line and the column of a stop in the whole text. -/
def Stop.locate (text : String) (s : Stop) : Nat × Nat :=
  let bytes := text.toUTF8.toList
  (bytes.take (bytes.length - byteCount s.rest + s.ahead)).foldl advance (1, 0)

/-- The wording of a stop with its place. -/
def Stop.message (text : String) (s : Stop) : String :=
  let place := s.locate text
  s.cause.message ++ " at line " ++ toString place.1 ++ " column " ++ toString place.2

end Scribe.Json
