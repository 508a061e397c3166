import Scribe.Remote.Host
import Scribe.Text.Percent

/-!
# Web addresses

An address is read from text as browsers read it: blanks around it, tabs and line breaks do not
count, a backslash is a slash, dots in the path are resolved, and characters that may not stand in a
path or a query are percent-encoded, while a percent sign is kept as it is. A user can be named in
front of the host. The part behind a number sign is not sent. Parameters are added to the query in
the encoding of web forms.
-/

namespace Scribe.Remote

open Text

/-- Who asks, as an address tells it. -/
structure User where
  name : String
  password : Option String
  deriving DecidableEq, Repr

/-- The address of a web resource. -/
structure Address where
  secure : Bool
  user : Option User
  host : String
  portNumber : Nat
  path : String
  query : Option String
  deriving DecidableEq, Repr

namespace Address

/-! ### Characters -/

/-- Whether a character is encoded in a path. -/
def encodedInPath (c : Char) : Bool :=
  Host.isControl c || [' ', '"', '#', '<', '>', '?', '\x60', '\x7b', '\x7d'].contains c

/-- Whether a character is encoded in a query. -/
def encodedInQuery (c : Char) : Bool :=
  Host.isControl c || [' ', '"', '#', '<', '>', '\''].contains c

/-! ### Parts -/

/-- The text without blanks and controls around it and without tabs and line breaks. -/
def clean (cs : List Char) : List Char :=
  let outer (c : Char) : Bool := c.toNat ≤ 0x20
  let inner := ((cs.dropWhile outer).reverse.dropWhile outer).reverse
  inner.filter fun c => c != '\t' && c != '\n' && c != '\r'

/-- Whether a character is a slash in an address. -/
def isSlash (c : Char) : Bool := c == '/' || c == '\\'

/-- Whether the address is encrypted, and what follows the scheme and the slashes behind it. -/
def scheme? (cs : List Char) : Option (Bool × List Char) :=
  let name := cs.takeWhile (· != ':')
  match cs.drop name.length, String.ofList (name.map Char.toLower) with
  | ':' :: rest, "http" => some (false, rest.dropWhile isSlash)
  | ':' :: rest, "https" => some (true, rest.dropWhile isSlash)
  | _, _ => none

/-- The user in front of a host, with encoded bytes resolved. The password stands behind the first
colon and is not empty. A part that is no text does not count. -/
def userOf? (cs : List Char) : Option User := do
  let name ← percentDecode? (.ofList (cs.takeWhile (· != ':')))
  let password :=
    match (cs.dropWhile (· != ':')).tail with
    | [] => none
    | rest => percentDecode? (.ofList rest)
  if name.isEmpty && password.isNone then none else return { name, password }

/-- The host of an authority and the number behind it. -/
def hostAndNumber? (secure : Bool) (cs : List Char) : Option (String × Nat) := do
  let default := if secure then 443 else 80
  let (host, rest) ←
    match cs with
    | '[' :: inside =>
      let literal := inside.takeWhile (· != ']')
      some (String.ofList ('[' :: literal ++ [']']), inside.drop (literal.length + 1))
    | cs => (Host.normal? (cs.takeWhile (· != ':'))).map fun h => (h, cs.dropWhile (· != ':'))
  match rest with
  | [] => some (host, default)
  | ':' :: digits =>
    let number := digits.foldl (fun n c => 10 * n + (c.toNat - '0'.toNat)) 0
    if !digits.all Char.isDigit || 65535 < number then none
    else some (host, if digits.isEmpty then default else number)
  | _ => none

/-- A segment with its encoded dots resolved. -/
def plainDots : List Char → List Char
  | '%' :: '2' :: 'e' :: cs => '.' :: plainDots cs
  | '%' :: '2' :: 'E' :: cs => '.' :: plainDots cs
  | c :: cs => c :: plainDots cs
  | [] => []

/-- Whether a segment names a drive. Two dots do not lead out of it. -/
def isDrive : List Char → Bool
  | [c, ':'] => c.isAlpha
  | [c, '|'] => c.isAlpha
  | _ => false

/-- The segments after those in `done`, which are in reverse, with the dots resolved. -/
def resolve (done : List (List Char)) : List (List Char) → List (List Char)
  | [] => done.reverse
  | segment :: rest =>
    let last := rest.isEmpty
    if plainDots segment = ['.'] then resolve (if last then [] :: done else done) rest
    else if plainDots segment = ['.', '.'] then
      let left := if done.head?.any isDrive then done else done.tail
      resolve (if last then [] :: left else left) rest
    else resolve (segment :: done) rest

/-- The segments of a path behind its first slash. -/
def segments (cs : List Char) : List (List Char) := cs.splitOnP isSlash

/-- The path of an address. -/
def pathOf (cs : List Char) : String :=
  let encoded := (segments (cs.drop 1)).map fun s =>
    (percentEncode encodedInPath (.ofList s)).toList
  .ofList ((resolve [] encoded).flatMap ('/' :: ·))

/-- Read an address. -/
def parse? (text : String) : Option Address := do
  let (secure, rest) ← scheme? (clean text.toList)
  let rest := rest.takeWhile (· != '#')
  let authority := rest.takeWhile fun c => !isSlash c && c != '?'
  let behindUser := (authority.reverse.takeWhile (· != '@')).reverse
  let user := userOf? (authority.take (authority.length - behindUser.length - 1))
  let (host, portNumber) ← hostAndNumber? secure behindUser
  let rest := rest.drop authority.length
  let path := rest.takeWhile (· != '?')
  let query := match rest.drop path.length with
    | '?' :: q => some (percentEncode encodedInQuery (.ofList q))
    | _ => none
  return { secure, user, host, portNumber, path := pathOf path, query }

/-! ### Parameters -/

/-- Whether a character is written as itself in a web form. -/
def isPlainInForm (c : Char) : Bool := c.isAlphanum || ['*', '-', '.', '_'].contains c

/-- A text as it is written in a web form: a blank as a plus sign, what is not plain encoded. -/
def formEncode (s : String) : String :=
  .ofList ((percentEncode (fun c => c != ' ' && !isPlainInForm c) s).toList.map fun c =>
    if c = ' ' then '+' else c)

/-- Parameters as they are written in a web form. -/
def form (params : List (String × String)) : String :=
  "&".intercalate (params.map fun (name, value) => formEncode name ++ "=" ++ formEncode value)

/-- An address with parameters added to its query. -/
def withParams (a : Address) (params : List (String × String)) : Address :=
  if params.isEmpty then a
  else
    let before := a.query.filter fun q => !q.isEmpty
    { a with query := some (before.elim "" (· ++ "&") ++ form params) }

/-- What is asked of the host. -/
def target (a : Address) : String := a.path ++ a.query.elim "" ("?" ++ ·)

end Address

end Scribe.Remote
