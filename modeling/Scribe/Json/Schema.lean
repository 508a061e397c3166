import Scribe.Json.Reader
import Scribe.Text.Quoted

/-!
# Schemas

A schema says what data is expected: a text, a flag, a word of 64 bits, a list, a record of named
fields. Data is read through a schema either from a value (`Schema.ofValue`) or straight from a text
(`Schema.read`), where a fault has a place. The result holds exactly the fields of the schema, with
null for an optional field that is missing.

A record may be written as an object or as an array of its fields in order. Fields that the schema
does not have are skipped, or refused by a closed record. From a text, a field may not come twice.
-/

namespace Scribe.Json

/-- What stands for a field that is missing. -/
inductive Presence where
  | required
  | fallback (value : Value)
  deriving Repr

/-- What data is expected. -/
inductive Schema where
  | text (expected : String)
  | flag
  | word (expected : String)
  | optional (schema : Schema)
  | list (schema : Schema)
  | record (name : String) (closed : Bool) (fields : List (String × Presence × Schema))
  | anything
  deriving Repr

namespace Schema

/-- A text, as it is called in a fault. -/
def string : Schema := .text "a string"

/-- What a fault says was expected. -/
def expected : Schema → String
  | .text e => e
  | .flag => "a boolean"
  | .word e => e
  | .optional s => s.expected
  | .list _ => "a sequence"
  | .record name .. => "struct " ++ name
  | .anything => "any value"

/-- How the parts of a wrong value are described. -/
structure Wording where
  null : String
  double : UInt64 → String
  exactArrays : Bool

/-- The wording for JSON data. -/
def jsonWording : Wording := ⟨"null", Scribe.Number.writeDouble, true⟩

/-- A value as a fault describes it. -/
def describe (w : Wording) : Value → String
  | .null => w.null
  | .bool b => "boolean \x60" ++ (if b then "true" else "false") ++ "\x60"
  | .number (.integer i) => "integer \x60" ++ toString i ++ "\x60"
  | .number (.double bits) => "floating point \x60" ++ w.double bits ++ "\x60"
  | .string s => "string " ++ Scribe.Text.quoted s
  | .array _ => "sequence"
  | .object _ => "map"

/-- The fault of a value of another kind than expected. -/
def wrongType (w : Wording) (v : Value) (s : Schema) : String :=
  "invalid type: " ++ describe w v ++ ", expected " ++ s.expected

/-- The fault of a value of the right kind that does not fit. -/
def wrongValue (w : Wording) (v : Value) (s : Schema) : String :=
  "invalid value: " ++ describe w v ++ ", expected " ++ s.expected

/-- The fault of a record that an array is too short for. -/
def tooShort (name : String) (length fields : Nat) : String :=
  "invalid length " ++ toString length ++ ", expected struct " ++ name ++ " with "
    ++ toString fields
    ++ (if fields = 1 then " element" else " elements")

/-- The fault of a field that is missing. -/
def missingField (name : String) : String := "missing field \x60" ++ name ++ "\x60"

/-- The fault of a field that comes twice. -/
def duplicateField (name : String) : String := "duplicate field \x60" ++ name ++ "\x60"

/-- The fault of a field that a closed record does not have. -/
def unknownField (name : String) (known : List String) : String :=
  let quotedNames := known.map fun n => "\x60" ++ n ++ "\x60"
  "unknown field \x60" ++ name ++ "\x60, " ++
    match quotedNames with
    | [] => "there are no fields"
    | [a] => "expected " ++ a
    | [a, b] => "expected " ++ a ++ " or " ++ b
    | all => "expected one of " ++ ", ".intercalate all

/-- The value of a field that an object does not have. -/
def absent (name : String) (presence : Presence) (s : Schema) : Except String Value :=
  match presence, s with
  | .fallback v, _ => .ok v
  | .required, .optional _ => .ok .null
  | .required, _ => .error (missingField name)

/-! ### From a value -/

mutual

/-- Read a value through a schema. -/
def ofValue (w : Wording) : Nat → Schema → Value → Except String Value
  | 0, _, _ => .error "recursion limit exceeded"
  | fuel + 1, s, v =>
    match s, v with
    | .anything, v => .ok v
    | .text _, .string t => .ok (.string t)
    | .flag, .bool b => .ok (.bool b)
    | .word _, .number (.integer i) =>
      if 0 ≤ i ∧ i ≤ (wordLimit : Int) then .ok v else .error (wrongValue w v s)
    | .optional _, .null => .ok .null
    | .optional inner, v => ofValue w fuel inner v
    | .list inner, .array items => (items.mapM (ofValue w fuel inner)).map .array
    | .record name _ fields, .array items => do
      let got ← fromItems w fuel name fields.length 0 fields items
      if w.exactArrays ∧ fields.length < items.length then
        .error ("invalid length " ++ toString items.length ++ ", expected fewer elements in array")
      else return .object got
    | .record _ closed fields, .object members => do
      let given ← fromMembers w fuel closed fields members
      return .object (← fields.mapM fun (name, presence, inner) =>
        match given.lookup name with
        | some v => .ok (name, v)
        | none => (absent name presence inner).map ((name, ·)))
    | s, v => .error (wrongType w v s)

/-- Read the fields of a record in order from the items of an array. -/
def fromItems (w : Wording) : Nat → String → Nat → Nat → List (String × Presence × Schema) →
    List Value → Except String (List (String × Value))
  | 0, _, _, _, _, _ => .error "recursion limit exceeded"
  | _, _, _, _, [], _ => .ok []
  | fuel + 1, owner, total, index, (name, presence, s) :: fields, items => do
    match items with
    | v :: rest =>
      let got ← ofValue w fuel s v
      return (name, got) :: (← fromItems w fuel owner total (index + 1) fields rest)
    | [] =>
      match presence with
      | .fallback v =>
        return (name, v) :: (← fromItems w fuel owner total (index + 1) fields [])
      | .required => .error (tooShort owner index total)

/-- Read the members of an object that are fields of a record, in the order of the object. -/
def fromMembers (w : Wording) : Nat → Bool → List (String × Presence × Schema) →
    List (String × Value) → Except String (List (String × Value))
  | 0, _, _, _ => .error "recursion limit exceeded"
  | _, _, _, [] => .ok []
  | fuel + 1, closed, fields, (name, v) :: rest => do
    match fields.lookup name with
    | some (_, s) =>
      let got ← ofValue w fuel s v
      return (name, got) :: (← fromMembers w fuel closed fields rest)
    | none =>
      if closed then .error (unknownField name (fields.map (·.1)))
      else fromMembers w fuel closed fields rest

end

mutual

/-- A bound on the steps that reading a value takes. -/
def steps : Value → Nat
  | .array items => 2 + stepsOfItems items
  | .object members => 2 + stepsOfMembers members
  | _ => 2

/-- A bound for the items of an array. -/
def stepsOfItems : List Value → Nat
  | [] => 1
  | v :: rest => 1 + steps v + stepsOfItems rest

/-- A bound for the members of an object. -/
def stepsOfMembers : List (String × Value) → Nat
  | [] => 1
  | (_, v) :: rest => 1 + steps v + stepsOfMembers rest

end

mutual

/-- A bound on the steps that a schema adds. -/
def size : Schema → Nat
  | .optional s => 1 + s.size
  | .list s => 1 + s.size
  | .record _ _ fields => 1 + sizeOfFields fields
  | _ => 1

/-- A bound for the fields of a record. -/
def sizeOfFields : List (String × Presence × Schema) → Nat
  | [] => 1
  | (_, _, s) :: rest => 1 + s.size + sizeOfFields rest

end

/-- Read data through a schema, with the wording for its format. -/
def decodeWith (w : Wording) (s : Schema) (v : Value) : Except String Value :=
  ofValue w (steps v + s.size + 1) s v

/-- Read JSON data through a schema. -/
def decode (s : Schema) (v : Value) : Except String Value := decodeWith jsonWording s v

/-! ### From a text -/

/-- Give a stop its place, if it has none: the place where the value around it was left. -/
def place (r : Except Stop (α × List Char)) : Except Stop (α × List Char) :=
  match r with
  | .error s => if s.placed then .error s else .error { s with ahead := 0, placed := true }
  | ok => ok

/-- Stop for a value of another kind than expected. A scalar is read first; an opening bracket is
left. -/
def wrongNext (s : Schema) : Reader α := fun cs =>
  place <| (do
    let v : Value ← match ← peekRaw with
      | some 'n' => do drop1; letters "ull"; pure Value.null
      | some 't' => do drop1; letters "rue"; pure (.bool true)
      | some 'f' => do drop1; letters "alse"; pure (.bool false)
      | some '-' => do drop1; pure (.number (← numberRest true))
      | some '"' => do drop1; pure (.string (← stringRest))
      | some '[' => pure (.array [])
      | some '\x7b' => pure (.object [])
      | some c =>
        if c.isDigit then pure (.number (← numberRest false)) else stopAtNext .expectedValue
      | none => stopHere .expectedValue
    stopData (wrongType jsonWording v s) : Reader α) cs

/-- Read what stands between brackets and close them. When the inside stops for its data, the
bracket is closed as far as it goes before the stop gets its place. -/
def bracketed (inside : Reader α) (close : Reader Unit) : Reader α := fun cs =>
  match inside cs with
  | .ok (a, rest) => (close rest).map fun p => (a, p.2)
  | .error s =>
    if s.placed then .error s
    else match close s.rest with
      | .ok (_, rest) => .error { s with rest := rest, ahead := 0, placed := true }
      | .error t => .error { s with rest := t.rest, ahead := 0, placed := true }

/-- Read a word of 64 bits. -/
def readWord (s : Schema) : Reader Value := fun cs =>
  place <| (do
    let n ← match ← peekRaw with
      | some '-' => do drop1; numberRest true
      | some c => if c.isDigit then numberRest false else wrongNext s
      | none => stopHere .endInValue
    match n with
    | .integer i =>
      if 0 ≤ i then return .number n
      else stopData (wrongValue jsonWording (.number n) s)
    | .double _ => stopData (wrongType jsonWording (.number n) s) : Reader Value) cs

mutual

/-- Read a value through a schema; `depth` levels are still free. -/
def readWith : Nat → Nat → Schema → Reader Value
  | 0, _, _ => stopHere .tooDeep
  | fuel + 1, depth, s => do
    match ← peek with
    | none =>
      match s with
      | .optional inner => readWith fuel depth inner
      | _ => stopHere .endInValue
    | some c =>
      match s, c with
      | .anything, _ => readValue fuel depth
      | .optional _, 'n' => do drop1; letters "ull"; return .null
      | .optional inner, _ => readWith fuel depth inner
      | .text _, '"' => do drop1; return .string (← stringRest)
      | .flag, 't' => do drop1; letters "rue"; return .bool true
      | .flag, 'f' => do drop1; letters "alse"; return .bool false
      | .word _, _ => readWord s
      | .list inner, '[' => do
        openBracket depth
        return .array (← bracketed (readListWith fuel (depth - 1) inner true) closeList)
      | .record name _ fields, '[' => do
        openBracket depth
        return .object
          (← bracketed (readItemsWith fuel (depth - 1) name fields.length 0 fields) closeList)
      | .record _ closed fields, '\x7b' => do
        openBracket depth
        return .object
          (← bracketed (readFieldsWith fuel (depth - 1) closed fields true []) closeObject)
      | s, _ => wrongNext s

/-- Read the items of a list. -/
def readListWith : Nat → Nat → Schema → Bool → Reader (List Value)
  | 0, _, _, _ => stopHere .tooDeep
  | fuel + 1, depth, s, first => do
    if ← moreItems first then
      let v ← readWith fuel depth s
      return v :: (← readListWith fuel depth s false)
    else return []

/-- Read the fields of a record in order from an array. -/
def readItemsWith : Nat → Nat → String → Nat → Nat → List (String × Presence × Schema) →
    Reader (List (String × Value))
  | 0, _, _, _, _, _ => stopHere .tooDeep
  | _, _, _, _, _, [] => return []
  | fuel + 1, depth, owner, total, index, (name, presence, s) :: fields => do
    if ← moreItems (index == 0) then
      let v ← readWith fuel depth s
      return (name, v) :: (← readItemsWith fuel depth owner total (index + 1) fields)
    else
      match presence with
      | .fallback v =>
        return (name, v) :: (← readItemsWith fuel depth owner total (index + 1) fields)
      | .required => stopData (tooShort owner index total)

/-- Read the fields of a record from an object; `given` holds those that were read. -/
def readFieldsWith : Nat → Nat → Bool → List (String × Presence × Schema) → Bool →
    List (String × Value) → Reader (List (String × Value))
  | 0, _, _, _, _, _ => stopHere .tooDeep
  | fuel + 1, depth, closed, fields, first, given => do
    if ← moreMembers first then
      let name ← stringRest
      match fields.lookup name with
      | some (_, s) =>
        if (given.lookup name).isSome then stopData (duplicateField name)
        else
          colon
          let v ← readWith fuel depth s
          readFieldsWith fuel depth closed fields false ((name, v) :: given)
      | none =>
        if closed then stopData (unknownField name (fields.map (·.1)))
        else
          colon
          skipValue fuel
          readFieldsWith fuel depth closed fields false given
    else
      fields.mapM fun (name, presence, s) =>
        match given.lookup name with
        | some v => pure (name, v)
        | none => match absent name presence s with
          | .ok v => pure (name, v)
          | .error reason => stopData reason

end

/-- Read a whole text through a schema; the fault names its place. -/
def read (s : Schema) (text : String) : Except String Value :=
  match readText (fun fuel => readWith (fuel + s.size) depthLimit s) text with
  | .ok v => .ok v
  | .error stop => .error (stop.message text)

end Schema

end Scribe.Json
