/-!
# JSON values

A value of JSON data. Numbers are integers or doubles, the latter given by their bits. The members
of an object are kept in the order in which they are written out.
-/

namespace Scribe.Json

/-- A JSON number: an integer, or a double with the given bits. -/
inductive Number where
  | integer (value : Int)
  | double (bits : UInt64)
  deriving DecidableEq, Repr

/-- A JSON value. -/
inductive Value where
  | null
  | bool (value : Bool)
  | number (value : Number)
  | string (value : String)
  | array (items : List Value)
  | object (members : List (String × Value))
  deriving Repr, Inhabited

namespace Value

/-- A non-negative integer as a value. -/
def nat (n : Nat) : Value := .number (.integer n)

/-- A text, or null where there is none. -/
def optional (s : Option String) : Value := s.elim .null .string

/-- The member of an object with a given name, if there is one. -/
def get? (name : String) : Value → Option Value
  | .object members => members.lookup name
  | _ => none

/-- The text that a value holds. -/
def string? : Value → Option String
  | .string s => some s
  | _ => none

/-- The number that a value holds, if it is a natural number. -/
def nat? : Value → Option Nat
  | .number (.integer i) => i.toNat?
  | _ => none

/-- The truth value that a value holds. -/
def bool? : Value → Option Bool
  | .bool b => some b
  | _ => none

/-- The items of an array; any other value has none. -/
def items : Value → List Value
  | .array vs => vs
  | _ => []

end Value

end Scribe.Json
