import Scribe.Text.Unseen

/-!
# Quoted text

The quoted form of a text for diagnostics: quotes and backslashes get a backslash, tab, line feed,
carriage return and NUL a letter, and characters that would not show as themselves are written as
`\u{…}` with their code point.
-/

namespace Scribe.Text

/-- The quoted form of one character. -/
def quotedChar (c : Char) : List Char :=
  match c with
  | '"' => ['\\', '"']
  | '\\' => ['\\', '\\']
  | '\t' => ['\\', 't']
  | '\n' => ['\\', 'n']
  | '\r' => ['\\', 'r']
  | '\x00' => ['\\', '0']
  | c =>
    if isUnseen c then ['\\', 'u', '\x7b'] ++ Nat.toDigits 16 c.toNat ++ ['\x7d'] else [c]

/-- The quoted form of a text. -/
def quoted (s : String) : String := "\"" ++ .ofList (s.toList.flatMap quotedChar) ++ "\""

/-- The quoted form of a text that may be missing. -/
def quotedOption : Option String → String
  | none => "None"
  | some s => "Some(" ++ quoted s ++ ")"

end Scribe.Text
