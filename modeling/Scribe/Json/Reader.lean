import Scribe.Json.Token
import Scribe.Json.Writer

/-!
# Reading JSON

`Value.parse` reads a whole text as one value. The members of an object are kept sorted by name and
the last of a name wins. At most 127 brackets may be open at once. `skipValue` passes over a value
that nobody asked for: it keeps no depth and checks less.

Every step of a reader takes at least one character or opens a level that did, so a fuel of twice
the length of the text is never used up.
-/

namespace Scribe.Json

/-- The number of open brackets at which reading stops. -/
def depthLimit : Nat := 128

/-- Read the items of an array one after the other, up to its closing bracket. The bracket is left;
`first` tells whether an item may come without a comma. -/
def moreItems (first : Bool) : Reader Bool := do
  match ← peek with
  | none => stopHere .endInList
  | some ']' => return false
  | some c =>
    if first then return true
    else if c = ',' then
      drop1
      match ← peek with
      | some ']' => stopAtNext .trailingComma
      | some _ => return true
      | none => stopHere .endInValue
    else stopAtNext .expectedListEnd

/-- Close an array. -/
def closeList : Reader Unit := do
  match ← peek with
  | some ']' => drop1
  | some ',' =>
    drop1
    match ← peek with
    | some ']' => stopAtNext .trailingComma
    | some _ => stopAtNext .trailingCharacters
    | none => stopHere .trailingCharacters
  | some _ => stopAtNext .trailingCharacters
  | none => stopHere .endInList

/-- Find the next name of an object; its opening quote is dropped. The closing brace is left. -/
def moreMembers (first : Bool) : Reader Bool := do
  match ← peek with
  | none => stopHere .endInObject
  | some '\x7d' => return false
  | some c =>
    if first then
      if c = '"' then do drop1; return true else stopAtNext .keyNotString
    else if c = ',' then
      drop1
      match ← peek with
      | some '"' => do drop1; return true
      | some '\x7d' => stopAtNext .trailingComma
      | some _ => stopAtNext .keyNotString
      | none => stopHere .endInValue
    else stopAtNext .expectedObjectEnd

/-- Close an object. -/
def closeObject : Reader Unit := do
  match ← peek with
  | some '\x7d' => drop1
  | some ',' => stopAtNext .trailingComma
  | some _ => stopAtNext .trailingCharacters
  | none => stopHere .endInObject

/-- Read the colon between a name and its value. -/
def colon : Reader Unit := do
  match ← peek with
  | some ':' => drop1
  | some _ => stopAtNext .expectedColon
  | none => stopHere .endInObject

/-- Open a bracket at which `depth` levels are still free. -/
def openBracket (depth : Nat) : Reader Unit :=
  if depth ≤ 1 then stopAtNext .tooDeep else drop1

/-! ### Values -/

mutual

/-- Read a value; `depth` levels are still free. -/
def readValue : Nat → Nat → Reader Value
  | 0, _ => stopHere .tooDeep
  | fuel + 1, depth => do
    match ← peek with
    | none => stopHere .endInValue
    | some 'n' => do drop1; letters "ull"; return .null
    | some 't' => do drop1; letters "rue"; return .bool true
    | some 'f' => do drop1; letters "alse"; return .bool false
    | some '-' => do drop1; return .number (← numberRest true)
    | some '"' => do drop1; return .string (← stringRest)
    | some '[' => do
      openBracket depth
      let items ← readItems fuel (depth - 1) true
      closeList
      return .array items
    | some '\x7b' => do
      openBracket depth
      let members ← readMembers fuel (depth - 1) true []
      closeObject
      return .object members
    | some c => if c.isDigit then return .number (← numberRest false) else stopAtNext .expectedValue

/-- Read the items of an array. -/
def readItems : Nat → Nat → Bool → Reader (List Value)
  | 0, _, _ => stopHere .tooDeep
  | fuel + 1, depth, first => do
    if ← moreItems first then
      let v ← readValue fuel depth
      let rest ← readItems fuel depth false
      return v :: rest
    else return []

/-- Read the members of an object and add them to sorted ones. -/
def readMembers : Nat → Nat → Bool → List (String × Value) → Reader (List (String × Value))
  | 0, _, _, _ => stopHere .tooDeep
  | fuel + 1, depth, first, done => do
    if ← moreMembers first then
      let name ← stringRest
      colon
      let v ← readValue fuel depth
      readMembers fuel depth false (Value.insertMember name v done)
    else return done

end

/-- Read to the end of the text. -/
def endOfText : Reader Unit := do
  match ← peek with
  | some _ => stopAtNext .trailingCharacters
  | none => pure ()

/-- Read a whole text with a reader that is given enough fuel. -/
def readText (reader : Nat → Reader α) (text : String) : Except Stop α :=
  let cs := text.toList
  (do let a ← reader (2 * cs.length + 2); endOfText; return a : Reader α).run' cs

/-- The value that a text holds. -/
def Value.parse (text : String) : Except Stop Value :=
  readText (fun fuel => readValue fuel depthLimit) text

/-! ### Skipped values -/

/-- The bracket that a skipped value stands in. -/
inductive Bracket where
  | list
  | object
  deriving DecidableEq, Repr

/-- Skip the name and the colon in front of a member. -/
def skipName : Reader Unit := do
  match ← peek with
  | some '"' => drop1
  | some _ => stopAtNext .keyNotString
  | none => stopHere .endInObject
  skipStringRest
  colon

/-- Skip one value that is no bracket, or open a bracket. -/
def skipScalar : Reader (Option Bracket) := do
  match ← peek with
  | none => stopHere .endInValue
  | some 'n' => do drop1; letters "ull"; return none
  | some 't' => do drop1; letters "rue"; return none
  | some 'f' => do drop1; letters "alse"; return none
  | some '-' => do drop1; skipNumberRest; return none
  | some '"' => do drop1; skipStringRest; return none
  | some '[' => do drop1; return some .list
  | some '\x7b' => do drop1; return some .object
  | some c => if c.isDigit then do skipNumberRest; return none else stopAtNext .expectedValue

/-- Close brackets as long as they end; the brackets still open, with a value to come. -/
def closeBrackets : Nat → Bool → List Bracket → Reader (List Bracket)
  | 0, _, _ => stopHere .tooDeep
  | _, _, [] => return []
  | fuel + 1, comma, b :: outer => do
    match ← peek, b with
    | some ',', _ =>
      if comma then do drop1; return b :: outer
      else return b :: outer
    | some ']', .list => do drop1; closeBrackets fuel true outer
    | some '\x7d', .object => do drop1; closeBrackets fuel true outer
    | some _, .list => if comma then stopAtNext .expectedListEnd else return b :: outer
    | some _, .object => if comma then stopAtNext .expectedObjectEnd else return b :: outer
    | none, .list => stopHere .endInList
    | none, .object => stopHere .endInObject

/-- Skip values until no bracket is open. -/
def skipFrom : Nat → List Bracket → Reader Unit
  | 0, _ => stopHere .tooDeep
  | fuel + 1, outer => do
    let opened ← skipScalar
    let left ← closeBrackets (fuel + 1) opened.isNone (opened.toList ++ outer)
    match left with
    | [] => pure ()
    | .list :: _ => skipFrom fuel left
    | .object :: _ => do skipName; skipFrom fuel left

/-- Skip one value. -/
def skipValue (fuel : Nat) : Reader Unit := skipFrom fuel []

end Scribe.Json
