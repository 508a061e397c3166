import Scribe.Json.Stop
import Scribe.Json.Value
import Scribe.Number.Double

/-!
# Tokens of JSON

Readers for what stands between the brackets of a JSON text: blanks, the three words, strings and
numbers. A reader takes the characters that are left and gives those that it leaves. Each token has
a second reader that skips it; skipping accepts lone surrogates and numbers of any size.
-/

namespace Scribe.Json

/-- A reader of a text: it gives a result and what it leaves, or stops. -/
abbrev Reader := StateT (List Char) (Except Stop)

/-- Stop behind what was read. -/
def stopHere (cause : Cause) : Reader α := fun cs => .error ⟨cause, cs, 0, true⟩

/-- Stop behind the first byte of what is left. -/
def stopAtNext (cause : Cause) : Reader α := fun cs => .error ⟨cause, cs, min 1 cs.length, true⟩

/-- Stop for a fault of the data, whose place the value around it decides. -/
def stopData (reason : String) : Reader α := fun cs => .error ⟨.data reason, cs, 0, false⟩

/-- Whether a character may stand between tokens. -/
def isSpace (c : Char) : Bool := c == ' ' || c == '\n' || c == '\t' || c == '\r'

/-- Skip the blanks and look at the next character. -/
def peek : Reader (Option Char) := fun cs =>
  let rest := cs.dropWhile isSpace
  .ok (rest.head?, rest)

/-- Look at the next character without skipping blanks. -/
def peekRaw : Reader (Option Char) := fun cs => .ok (cs.head?, cs)

/-- Drop the next character. -/
def drop1 : Reader Unit := fun cs => .ok ((), cs.drop 1)

/-- Read the letters of a word, of which the first has been seen. -/
def letters (expected : String) : Reader Unit := go expected.toList
where
  go : List Char → Reader Unit
    | [] => pure ()
    | l :: ls => do
      match ← peekRaw with
      | none => stopHere .endInValue
      | some c => if c = l then do drop1; go ls else stopAtNext .expectedIdent

/-! ### Strings -/

/-- The value of a hexadecimal digit. -/
def hexValue? (c : Char) : Option Nat :=
  if c.isDigit then some (c.toNat - 48)
  else if 'a' ≤ c ∧ c ≤ 'f' then some (c.toNat - 87)
  else if 'A' ≤ c ∧ c ≤ 'F' then some (c.toNat - 55)
  else none

/-- The number that the first four hexadecimal digits of a text give. -/
def hex4 (cs : List Char) : Except Stop Nat :=
  if Text.byteCount cs < 4 then .error ⟨.endInString, [], 0, true⟩
  else match (cs.take 4).mapM hexValue? with
    | some ds => .ok (ds.foldl (fun n d => 16 * n + d) 0)
    | none => .error ⟨.invalidEscape, cs, 4, true⟩

/-- The character behind an escape `u`, and the number of characters that it takes. The second half
of a surrogate pair follows the first as an escape of its own. -/
def unicodeEscape (cs : List Char) : Except Stop (Char × Nat) := do
  let high ← hex4 cs
  if 0xDC00 ≤ high ∧ high ≤ 0xDFFF then .error ⟨.loneSurrogate, cs.drop 4, 0, true⟩
  else if high < 0xD800 ∨ 0xDBFF < high then return (Char.ofNat high, 4)
  else match cs.drop 4 with
    | [] => .error ⟨.endInString, [], 0, true⟩
    | '\\' :: [] => .error ⟨.endInString, [], 0, true⟩
    | '\\' :: 'u' :: behind => do
      let low ← hex4 behind
      if low < 0xDC00 ∨ 0xDFFF < low then .error ⟨.loneSurrogate, behind.drop 4, 0, true⟩
      else return (Char.ofNat ((high - 0xD800) * 0x400 + (low - 0xDC00) + 0x10000), 10)
    | '\\' :: other => .error ⟨.unfinishedPair, other, 1, true⟩
    | other => .error ⟨.unfinishedPair, other, 1, true⟩

/-- The character of an escape behind its backslash, and the number of characters that it takes. -/
def escape : List Char → Except Stop (Char × Nat)
  | [] => .error ⟨.endInString, [], 0, true⟩
  | 'u' :: cs => (unicodeEscape cs).map fun p => (p.1, p.2 + 1)
  | '"' :: _ => .ok ('"', 1)
  | '\\' :: _ => .ok ('\\', 1)
  | '/' :: _ => .ok ('/', 1)
  | 'b' :: _ => .ok ('\x08', 1)
  | 'f' :: _ => .ok ('\x0c', 1)
  | 'n' :: _ => .ok ('\n', 1)
  | 'r' :: _ => .ok ('\r', 1)
  | 't' :: _ => .ok ('\t', 1)
  | cs => .error ⟨.invalidEscape, cs, 1, true⟩

/-- An escape that is skipped; half of a surrogate pair is as good as any. -/
def escapeSkipped : List Char → Except Stop (Char × Nat)
  | 'u' :: cs => (hex4 cs).map fun _ => ('\x00', 5)
  | cs => escape cs

/-- The characters up to the closing quote. -/
def stringBody (escape : List Char → Except Stop (Char × Nat)) (cs : List Char) :
    Except Stop (List Char × List Char) :=
  match cs with
  | [] => .error ⟨.endInString, [], 0, true⟩
  | '"' :: rest => .ok ([], rest)
  | '\\' :: rest => do
    let (c, n) ← escape rest
    let (more, left) ← stringBody escape (rest.drop n)
    return (c :: more, left)
  | c :: rest =>
    if c.toNat < 0x20 then .error ⟨.controlCharacter, c :: rest, 1, true⟩
    else do
      let (more, left) ← stringBody escape rest
      return (c :: more, left)
termination_by cs.length
decreasing_by all_goals simp; try omega

/-- Read a string behind its opening quote. -/
def stringRest : Reader String := fun cs =>
  (stringBody escape cs).map fun p => (.ofList p.1, p.2)

/-- Skip a string behind its opening quote. -/
def skipStringRest : Reader Unit := fun cs =>
  (stringBody escapeSkipped cs).map fun p => ((), p.2)

/-! ### Numbers -/

/-- The digits at the start of what is left. -/
def digits : Reader (List Char) := fun cs =>
  .ok (cs.takeWhile Char.isDigit, cs.dropWhile Char.isDigit)

/-- Append digits to a number as long as it stays at most `limit`; the digits left surplus. -/
def accumulate (limit : Nat) : Nat → List Char → Nat × List Char
  | n, [] => (n, [])
  | n, d :: ds =>
    let next := 10 * n + (d.toNat - 48)
    if limit < next then (n, d :: ds) else accumulate limit next ds

/-- The largest number that is kept as digits. -/
def wordLimit : Nat := 0xFFFFFFFFFFFFFFFF

/-- The largest exponent that is counted. -/
def exponentLimit : Nat := 0x7FFFFFFF

/-- A double from its decimal parts. -/
def double (negative : Bool) (significand : Nat) (exponent : Int) : Reader Number :=
  match Scribe.Number.readDouble? negative significand exponent with
  | some bits => pure (.double bits)
  | none => stopHere .numberOutOfRange

/-- The sign of an exponent, which may be left out. -/
def exponentSign : Reader Bool := do
  match ← peekRaw with
  | some '+' => do drop1; return false
  | some '-' => do drop1; return true
  | _ => return false

/-- Read an exponent and finish a double. -/
def exponentPart (negative : Bool) (significand : Nat) (start : Int) : Reader Number := do
  drop1
  let down ← exponentSign
  match ← peekRaw with
  | none => stopHere .endInValue
  | some c =>
    if !c.isDigit then stopAtNext .invalidNumber
    else do
      let ds ← digits
      let (n, surplus) := accumulate exponentLimit 0 ds
      if surplus.isEmpty then
        double negative significand (if down then start - n else start + n)
      else if significand ≠ 0 ∧ !down then do
        let behind ← get
        throw ⟨.numberOutOfRange, surplus.drop 1 ++ behind, 0, true⟩
      else double negative 0 0

/-- Read the digits behind a point and finish a double. Digits that do not fit are dropped. -/
def decimalPart (negative : Bool) (significand : Nat) (start : Int) : Reader Number := do
  drop1
  let ds ← digits
  let (n, surplus) := accumulate wordLimit significand ds
  if ds.isEmpty then
    match ← peekRaw with
    | some _ => stopAtNext .invalidNumber
    | none => stopHere .endInValue
  else
    let exponent := start - ((ds.length - surplus.length : Nat) : Int)
    match ← peekRaw with
    | some 'e' | some 'E' => exponentPart negative n exponent
    | _ => double negative n exponent

/-- An integer that was read to its end: kept if it fits, and minus zero is a double. -/
def integerOf (negative : Bool) (n : Nat) : Reader Number :=
  if !negative then pure (.integer n)
  else if n = 0 ∨ 0x8000000000000000 < n then double true n 0
  else pure (.integer (-(n : Int)))

/-- Read a number behind its sign. Leading zeros are refused. -/
def numberRest (negative : Bool) : Reader Number := do
  match ← peekRaw with
  | none => stopHere .endInValue
  | some c =>
    if !c.isDigit then stopAtNext .invalidNumber
    else
      let ds ← if c = '0' then do drop1; pure ['0'] else digits
      let next ← peekRaw
      if c = '0' ∧ next.any Char.isDigit then stopAtNext .invalidNumber
      else
        let (n, surplus) := accumulate wordLimit 0 ds
        let exponent : Int := surplus.length
        match next with
        | some '.' => decimalPart negative n exponent
        | some 'e' | some 'E' => exponentPart negative n exponent
        | _ => if surplus.isEmpty then integerOf negative n else double negative n exponent

/-- Skip an exponent. -/
def skipExponent : Reader Unit := do
  drop1
  let _ ← exponentSign
  match ← peekRaw with
  | some c => if c.isDigit then do let _ ← digits else stopAtNext .invalidNumber
  | none => stopHere .invalidNumber

/-- Skip a number behind its sign. -/
def skipNumberRest : Reader Unit := do
  match ← peekRaw with
  | none => stopHere .invalidNumber
  | some c =>
    if !c.isDigit then stopAtNext .invalidNumber
    else
      if c = '0' then drop1 else do let _ ← digits
      match ← peekRaw with
      | some '.' => do
        drop1
        let ds ← digits
        if ds.isEmpty then stopAtNext .invalidNumber
        else match ← peekRaw with
          | some 'e' | some 'E' => skipExponent
          | _ => pure ()
      | some 'e' | some 'E' => skipExponent
      | some d => if c = '0' ∧ d.isDigit then stopAtNext .invalidNumber else pure ()
      | none => pure ()

end Scribe.Json
