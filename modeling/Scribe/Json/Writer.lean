import Scribe.Json.Value
import Scribe.Number.Double

/-!
# Written JSON

A value is written compactly, or with an indentation of two spaces in which empty arrays and objects
stay on one line. In a string the quote, the backslash and the characters below U+0020 are escaped,
and nothing else. `sorted` orders the members of every object by their names.
-/

namespace Scribe.Json

/-! ### Strings -/

/-- A hexadecimal digit in lower case. -/
def hexDigit (n : Nat) : Char := (Nat.toDigits 16 (n % 16)).headD '0'

/-- The written form of a character inside a string. -/
def escapeChar (c : Char) : List Char :=
  match c with
  | '"' => ['\\', '"']
  | '\\' => ['\\', '\\']
  | '\x08' => ['\\', 'b']
  | '\x0c' => ['\\', 'f']
  | '\n' => ['\\', 'n']
  | '\r' => ['\\', 'r']
  | '\t' => ['\\', 't']
  | c =>
    if c.toNat < 0x20 then ['\\', 'u', '0', '0', hexDigit (c.toNat / 16), hexDigit c.toNat]
    else [c]

/-- A text as a JSON string. -/
def quote (s : String) : String := "\"" ++ .ofList (s.toList.flatMap escapeChar) ++ "\""

/-! ### Values -/

/-- The written form of a number. -/
def Number.toText : Number → String
  | .integer i => toString i
  | .double bits => Scribe.Number.writeDouble bits

namespace Value

mutual

/-- The compact form of a value. -/
def compact : Value → String
  | .null => "null"
  | .bool true => "true"
  | .bool false => "false"
  | .number n => n.toText
  | .string s => quote s
  | .array items => "[" ++ ",".intercalate (compactItems items) ++ "]"
  | .object members => "\x7b" ++ ",".intercalate (compactMembers members) ++ "\x7d"

/-- The items of an array, each in compact form. -/
def compactItems : List Value → List String
  | [] => []
  | v :: rest => compact v :: compactItems rest

/-- The members of an object, each in compact form. -/
def compactMembers : List (String × Value) → List String
  | [] => []
  | (name, v) :: rest => (quote name ++ ":" ++ compact v) :: compactMembers rest

end

/-- A line break and the indentation of a level. -/
def newLine (level : Nat) : String := "\n" ++ .ofList (List.replicate (2 * level) ' ')

mutual

/-- The indented form of a value that stands on a given level. -/
def indented (level : Nat) : Value → String
  | .array [] => "[]"
  | .array items =>
    "[" ++ newLine (level + 1) ++
      ("," ++ newLine (level + 1)).intercalate (indentedItems (level + 1) items) ++
      newLine level ++ "]"
  | .object [] => "\x7b\x7d"
  | .object members =>
    "\x7b" ++ newLine (level + 1) ++
      ("," ++ newLine (level + 1)).intercalate (indentedMembers (level + 1) members) ++
      newLine level ++ "\x7d"
  | .null => "null"
  | .bool true => "true"
  | .bool false => "false"
  | .number n => n.toText
  | .string s => quote s

/-- The items of an array, each in indented form. -/
def indentedItems (level : Nat) : List Value → List String
  | [] => []
  | v :: rest => indented level v :: indentedItems level rest

/-- The members of an object, each in indented form. -/
def indentedMembers (level : Nat) : List (String × Value) → List String
  | [] => []
  | (name, v) :: rest => (quote name ++ ": " ++ indented level v) :: indentedMembers level rest

end

/-- The indented form of a value. -/
def pretty (v : Value) : String := indented 0 v

/-! ### Sorted members -/

/-- Put a member in its place among members sorted by name; a member of that name is replaced. -/
def insertMember (name : String) (v : Value) : List (String × Value) → List (String × Value)
  | [] => [(name, v)]
  | (other, w) :: rest =>
    if name < other then (name, v) :: (other, w) :: rest
    else if name = other then (name, v) :: rest
    else (other, w) :: insertMember name v rest

mutual

/-- A value in which the members of every object are sorted by name, the last of a name winning. -/
def sorted : Value → Value
  | .array items => .array (sortedItems items)
  | .object members => .object (sortedMembers members [])
  | .null => .null
  | .bool b => .bool b
  | .number n => .number n
  | .string s => .string s

/-- The items of an array, each sorted. -/
def sortedItems : List Value → List Value
  | [] => []
  | v :: rest => sorted v :: sortedItems rest

/-- Sorted members, added one after the other to sorted ones. -/
def sortedMembers : List (String × Value) → List (String × Value) → List (String × Value)
  | [], done => done
  | (name, v) :: rest, done => sortedMembers rest (insertMember name (sorted v) done)

end

end Value

end Scribe.Json
