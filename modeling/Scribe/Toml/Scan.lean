import Scribe.Number.Double
import Scribe.Text.Search

/-!
# The words of TOML

Each function here reads one word from the start of a text, a key, a string, a number or a time, and
gives its value with what follows it; `none` stands for a text that has no such word there. Numbers
are integers of 64 bits or doubles, and a time is kept as it is written.
-/

namespace Scribe.Toml

open Text

/-- A text that is read from its start. -/
abbrev Scan (α : Type) := List Char → Option (α × List Char)

/-! ### Characters -/

/-- A space or a tab. -/
def isSpace (c : Char) : Bool := c == ' ' || c == '\t'

/-- A character that may stand in a comment. -/
def isPlain (c : Char) : Bool := c == '\t' || (0x20 ≤ c.toNat && c.toNat != 0x7F)

/-- A character of a key without quotes. -/
def isKeyChar (c : Char) : Bool := c.isAlphanum || c == '-' || c == '_'

/-- What follows spaces and tabs. -/
def skipSpaces (cs : List Char) : List Char := cs.dropWhile isSpace

/-- What follows a line break, if there is one. -/
def newline? : List Char → Option (List Char)
  | '\n' :: rest => some rest
  | '\r' :: '\n' :: rest => some rest
  | _ => none

/-- What follows a comment that may be here. -/
def skipComment : List Char → List Char
  | '#' :: rest => rest.dropWhile isPlain
  | cs => cs

/-- What follows the end of a line; there may be a comment in front of it. -/
def lineEnd? (cs : List Char) : Option (List Char) :=
  match skipComment (skipSpaces cs) with
  | [] => some []
  | cs => newline? cs

/-- What follows spaces, line breaks and comments. -/
def skipBlank : Nat → List Char → List Char
  | 0, cs => cs
  | fuel + 1, cs =>
    let cs := skipSpaces cs
    match newline? cs with
    | some rest => skipBlank fuel rest
    | none =>
      match cs with
      | '#' :: rest => skipBlank fuel (rest.dropWhile isPlain)
      | cs => cs

/-! ### Strings -/

/-- A hexadecimal digit. -/
def isHexDigit (c : Char) : Bool := c.isDigit || ('a' ≤ c.toLower && c.toLower ≤ 'f')

/-- The value of a digit up to sixteen. -/
def digitValue (c : Char) : Nat := if c.isDigit then c.toNat - 48 else c.toLower.toNat - 87

/-- A character by its code point, with a fixed number of digits. -/
def codePoint? (count : Nat) (cs : List Char) : Option (Char × List Char) :=
  let ds := cs.take count
  let n := ds.foldl (fun n c => 16 * n + digitValue c) 0
  if ds.length < count ∨ !ds.all isHexDigit ∨ 0x10FFFF < n ∨ (0xD800 ≤ n ∧ n ≤ 0xDFFF) then none
  else some (Char.ofNat n, cs.drop count)

/-- The character behind a backslash. -/
def escape? : Scan Char
  | 'b' :: rest => some ('\x08', rest)
  | 't' :: rest => some ('\t', rest)
  | 'n' :: rest => some ('\n', rest)
  | 'f' :: rest => some ('\x0c', rest)
  | 'r' :: rest => some ('\r', rest)
  | '"' :: rest => some ('"', rest)
  | '\\' :: rest => some ('\\', rest)
  | 'u' :: rest => codePoint? 4 rest
  | 'U' :: rest => codePoint? 8 rest
  | _ => none

/-- Put a character in front of what is read. -/
def cons (c : Char) (r : Option (List Char × List Char)) : Option (List Char × List Char) :=
  r.map fun p => (c :: p.1, p.2)

/-- A string on one line, behind its opening quote. -/
def basic : Nat → Scan (List Char)
  | 0, _ => none
  | fuel + 1, cs =>
    match cs with
    | '"' :: rest => some ([], rest)
    | '\\' :: rest =>
      match escape? rest with
      | some (c, rest) => cons c (basic fuel rest)
      | none => none
    | c :: rest => if isPlain c then cons c (basic fuel rest) else none
    | [] => none

/-- A string on one line without escapes, behind its opening quote. -/
def literal (cs : List Char) : Option (List Char × List Char) :=
  match cs.dropWhile fun c => isPlain c && c != '\'' with
  | '\'' :: rest => some (cs.takeWhile fun c => isPlain c && c != '\'', rest)
  | _ => none

/-- The end of a string on several lines: the quotes that belong to it, and what follows. -/
def closing? (quote : Char) (cs : List Char) : Option (List Char × List Char) :=
  let n := (cs.takeWhile (· == quote)).length
  if n < 3 then none else some (List.replicate (min (n - 3) 2) quote, cs.drop (min n 5))

/-- What follows spaces, tabs and line breaks. -/
def skipBreaks : List Char → List Char
  | '\r' :: '\n' :: rest => skipBreaks rest
  | c :: rest => if isSpace c || c == '\n' then skipBreaks rest else c :: rest
  | [] => []

/-- What follows a line break, spaces around it, and more of both. -/
def continuation? (cs : List Char) : Option (List Char) :=
  (newline? (skipSpaces cs)).map skipBreaks

/-- A string on several lines, behind its opening quotes; `escapes` if a backslash counts. -/
def multiline (quote : Char) (escapes : Bool) : Nat → Scan (List Char)
  | 0, _ => none
  | fuel + 1, cs =>
    match closing? quote cs with
    | some p => some p
    | none =>
      match newline? cs with
      | some rest => cons '\n' (multiline quote escapes fuel rest)
      | none =>
        match cs with
        | [] => none
        | c :: rest =>
          if escapes && c == '\\' then
            match continuation? rest with
            | some rest => multiline quote escapes fuel rest
            | none =>
              match escape? rest with
              | some (c, rest) => cons c (multiline quote escapes fuel rest)
              | none => none
          else if isPlain c then cons c (multiline quote escapes fuel rest)
          else none

/-- What follows a line break that may be here. -/
def skipNewline (cs : List Char) : List Char := (newline? cs).getD cs

/-- A string. -/
def string? (cs : List Char) : Option (List Char × List Char) :=
  match cs with
  | '"' :: '"' :: '"' :: rest => multiline '"' true (rest.length + 1) (skipNewline rest)
  | '\'' :: '\'' :: '\'' :: rest => multiline '\'' false (rest.length + 1) (skipNewline rest)
  | '"' :: rest => basic (rest.length + 1) rest
  | '\'' :: rest => literal rest
  | _ => none

/-! ### Keys -/

/-- One part of a key. -/
def keyPart (cs : List Char) : Option (String × List Char) :=
  match cs with
  | '"' :: rest => (basic (rest.length + 1) rest).map fun p => (.ofList p.1, p.2)
  | '\'' :: rest => (literal rest).map fun p => (.ofList p.1, p.2)
  | cs =>
    match cs.takeWhile isKeyChar with
    | [] => none
    | name => some (.ofList name, cs.dropWhile isKeyChar)

/-- The parts of a key, with dots between them. -/
def key : Nat → Scan (List String)
  | 0, _ => none
  | fuel + 1, cs => do
    let (part, rest) ← keyPart (skipSpaces cs)
    match skipSpaces rest with
    | '.' :: rest =>
      let (parts, rest) ← key fuel rest
      return (part :: parts, rest)
    | rest => return ([part], rest)

/-! ### Numbers -/

/-- Digits in which single underscores may stand between two. -/
def digits (isDigit : Char → Bool) : List Char → List Char × List Char
  | '_' :: c :: rest =>
    if isDigit c then
      let p := digits isDigit rest
      (c :: p.1, p.2)
    else ([], '_' :: c :: rest)
  | c :: rest =>
    if isDigit c then
      let p := digits isDigit rest
      (c :: p.1, p.2)
    else ([], c :: rest)
  | [] => ([], [])

/-- Digits, of which there is at least one, and an underscore is not the first character. -/
def someDigits (isDigit : Char → Bool) (cs : List Char) : Option (List Char × List Char) :=
  match cs with
  | c :: _ => if isDigit c then some (digits isDigit cs) else none
  | [] => none

/-- The sign of a number, and whether there is one. -/
def sign : List Char → Bool × List Char
  | '-' :: rest => (true, rest)
  | '+' :: rest => (false, rest)
  | cs => (false, cs)

/-- The digits of an integer without a sign; a zero stands alone. -/
def integerDigits (cs : List Char) : Option (List Char × List Char) :=
  match cs with
  | '0' :: rest => some (['0'], rest)
  | cs => someDigits Char.isDigit cs

/-- The number that decimal digits give. -/
def decimal (ds : List Char) : Nat := ds.foldl (fun n c => 10 * n + (c.toNat - 48)) 0

/-- A number in one of the bases with a letter. -/
def based? (cs : List Char) : Option (Int × List Char) := do
  let (base, isDigit, rest) ← match cs with
    | '0' :: 'x' :: rest => some (16, isHexDigit, rest)
    | '0' :: 'o' :: rest => some (8, fun c => '0' ≤ c && c ≤ '7', rest)
    | '0' :: 'b' :: rest => some (2, fun c => c == '0' || c == '1', rest)
    | _ => none
  let (ds, rest) ← someDigits isDigit rest
  let n := ds.foldl (fun n c => base * n + digitValue c) 0
  if n < 0x8000000000000000 then some ((n : Int), rest) else none

/-- The exponent of a number. -/
def exponent? (cs : List Char) : Option (Int × List Char) :=
  match cs with
  | 'e' :: rest | 'E' :: rest => do
    let (negative, rest) := sign rest
    let (ds, rest) ← someDigits Char.isDigit rest
    let n : Int := decimal ds
    return (if negative then -n else n, rest)
  | _ => none

/-- The digits behind a decimal point. -/
def fraction? (cs : List Char) : Option (List Char × List Char) :=
  match cs with
  | '.' :: rest => someDigits Char.isDigit rest
  | _ => none

/-- The double nearest to a decimal number. -/
def nearest (negative : Bool) (ds : List Char) (exponent : Int) : Float :=
  let lead : Int := (ds.dropWhile (· == '0')).length + exponent
  let f : Float :=
    if decimal ds = 0 ∨ lead < -400 then 0.0
    else if 400 < lead then 1.0 / 0.0
    else Float.ofScientific (decimal ds) (exponent < 0) exponent.natAbs
  if negative then -f else f

/-- A number: an integer or the bits of a double. One that is too large is no word. -/
def number? (cs : List Char) : Option ((Int ⊕ UInt64) × List Char) :=
  match based? cs with
  | some (n, rest) => some (.inl n, rest)
  | none => do
    let (negative, unsigned) := sign cs
    match dropPattern? ['i', 'n', 'f'] unsigned, dropPattern? ['n', 'a', 'n'] unsigned with
    | some rest, _ =>
      return (.inr (if negative then 0xFFF0000000000000 else 0x7FF0000000000000), rest)
    | _, some rest => return (.inr 0x7FF8000000000000, rest)
    | none, none =>
      let (whole, rest) ← integerDigits unsigned
      let fraction := fraction? rest
      let part := (fraction.map (·.1)).getD []
      let behind := (fraction.map (·.2)).getD rest
      match fraction, exponent? behind with
      | none, none =>
        let n : Int := decimal whole
        let n := if negative then -n else n
        if -0x8000000000000000 ≤ n ∧ n < 0x8000000000000000 then return (.inl n, rest) else none
      | _, e =>
        let exponent := (e.map (·.1)).getD 0
        let f := nearest negative (whole ++ part) (exponent - part.length)
        if f.isInf ∧ !negative then none
        else return (.inr f.toBits, (e.map (·.2)).getD behind)

/-! ### Times -/

/-- A number of a fixed count of digits within bounds. -/
def field? (count low high : Nat) (cs : List Char) : Option (Nat × List Char) :=
  let ds := cs.take count
  if ds.length = count ∧ ds.all Char.isDigit ∧ low ≤ decimal ds ∧ decimal ds ≤ high then
    some (decimal ds, cs.drop count)
  else none

/-- What follows a character that must be here. -/
def past? (c : Char) : List Char → Option (List Char)
  | d :: rest => if c = d then some rest else none
  | [] => none

/-- The number of days of a month. -/
def monthDays (year month : Nat) : Nat :=
  if month = 2 then
    if year % 4 = 0 ∧ (year % 100 ≠ 0 ∨ year % 400 = 0) then 29 else 28
  else if [4, 6, 9, 11].contains month then 30 else 31

/-- What follows a date. -/
def date? (cs : List Char) : Option (List Char) := do
  let (year, cs) ← field? 4 0 9999 cs
  let (month, cs) ← field? 2 1 12 (← past? '-' cs)
  let (_, cs) ← field? 2 1 (monthDays year month) (← past? '-' cs)
  return cs

/-- What follows a time of day. -/
def timeOfDay? (cs : List Char) : Option (List Char) := do
  let (_, cs) ← field? 2 0 23 cs
  let (_, cs) ← field? 2 0 59 (← past? ':' cs)
  let (_, cs) ← field? 2 0 60 (← past? ':' cs)
  match cs with
  | '.' :: c :: rest => if c.isDigit then return rest.dropWhile Char.isDigit else return cs
  | cs => return cs

/-- What follows a distance from universal time that may be here. -/
def skipOffset (cs : List Char) : Option (List Char) :=
  match cs with
  | 'Z' :: rest | 'z' :: rest => some rest
  | '+' :: rest | '-' :: rest => do
    let (_, cs) ← field? 2 0 23 rest
    let (_, cs) ← field? 2 0 59 (← past? ':' cs)
    return cs
  | cs => some cs

/-- What follows a date with the time that may come with it. -/
def dateAndTime? (cs : List Char) : Option (List Char) := do
  let rest ← date? cs
  match rest with
  | c :: behind =>
    if c = 'T' ∨ c = 't' then skipOffset (← timeOfDay? behind)
    else if c = ' ' ∧ (behind.head?.any Char.isDigit) then skipOffset (← timeOfDay? behind)
    else return rest
  | [] => return []

/-- Whether a date or a time starts here: their first mark stands behind digits. -/
def startsTime (cs : List Char) : Bool :=
  let n := (cs.takeWhile Char.isDigit).length
  (n = 4 && cs[4]? == some '-') || (n = 2 && cs[2]? == some ':')

/-- A date or a time, as it is written. -/
def time? (cs : List Char) : Option (List Char × List Char) := do
  let rest ← if (cs.drop 2).head? = some ':' then timeOfDay? cs else dateAndTime? cs
  return (cs.take (cs.length - rest.length), rest)

end Scribe.Toml
