import Scribe.Html.Reference
import Scribe.Html.Node

/-!
# HTML tokens

A text is cut into tags, comments, document types and runs of characters, with character references
resolved. How the next token is read depends on the element that the reader stands in: in the
content of a title references count but tags do not, in raw text neither, a script can hide its own
end tag in a comment, and behind a plaintext tag there are no tokens but text; foreign vocabularies
have marked sections. A tag that the text ends in is dropped. Line ends are line feeds.
-/

namespace Scribe.Html

/-- A piece of a text. -/
inductive Token where
  | startTag (name : String) (attributes : List Attribute) (selfClosing : Bool)
  | endTag (name : String)
  | text (content : List Char)
  | comment (content : String)
  | doctype (name : String) (publicId systemId : Option String) (correct : Bool)
  deriving Repr

/-- How the text of the current element is read. -/
inductive TextMode where
  | data
  | foreign
  | references
  | raw
  | script
  | plain
  deriving DecidableEq, Repr

/-- Make line feeds of all line ends, and drop a byte-order mark at the start. -/
def normalize (cs : List Char) : List Char :=
  go (match cs with
    | '\ufeff' :: rest => rest
    | _ => cs)
where
  go : List Char → List Char
    | [] => []
    | '\r' :: '\n' :: rest => '\n' :: go rest
    | '\r' :: rest => '\n' :: go rest
    | c :: rest => c :: go rest

/-- The white space of the format. -/
def isHtmlSpace (c : Char) : Bool :=
  c == ' ' || c == '\n' || c == '\t' || c == '\x0c' || c == '\r'

/-- A letter in lower case, ASCII only, with NUL made visible. -/
def lowerName (c : Char) : Char := if c = '\x00' then '\ufffd' else c.toLower

/-! ### Character references -/

/-- The characters that the code points 0x80 to 0x9F stand for. -/
def legacyPoints : List Nat :=
  [0x20AC, 0x81, 0x201A, 0x192, 0x201E, 0x2026, 0x2020, 0x2021, 0x2C6, 0x2030, 0x160, 0x2039, 0x152,
   0x8D, 0x17D, 0x8F, 0x90, 0x2018, 0x2019, 0x201C, 0x201D, 0x2022, 0x2013, 0x2014, 0x2DC, 0x2122,
   0x161, 0x203A, 0x153, 0x9D, 0x17E, 0x178]

/-- The character of a numeric reference. -/
def numberedChar (n : Nat) : Char :=
  if n = 0 ∨ 0x10FFFF < n ∨ (0xD800 ≤ n ∧ n ≤ 0xDFFF) then '\ufffd'
  else if 0x80 ≤ n ∧ n ≤ 0x9F then Char.ofNat ((legacyPoints[n - 0x80]?).getD n)
  else Char.ofNat n

/-- The value of a digit in a base up to sixteen. -/
def digitValue? (base : Nat) (c : Char) : Option Nat :=
  if c.isDigit then some (c.toNat - 48)
  else if base = 16 ∧ 'a' ≤ c.toLower ∧ c.toLower ≤ 'f' then some (c.toLower.toNat - 87)
  else none

/-- The text behind an ampersand that starts a numeric reference: its characters and the length. -/
def numericReference (cs : List Char) : List Char × Nat :=
  let (base, skip) : Nat × Nat :=
    match cs.drop 1 with
    | 'x' :: _ | 'X' :: _ => (16, 2)
    | _ => (10, 1)
  let ds := (cs.drop skip).takeWhile fun c => (digitValue? base c).isSome
  if ds.isEmpty then ('&' :: cs.take skip, skip)
  else
    let n := ds.foldl (fun n c => min 0x110000 (base * n + (digitValue? base c).getD 0)) 0
    let used := skip + ds.length
    ([numberedChar n], if (cs.drop used).head? = some ';' then used + 1 else used)

/-- What a text behind an ampersand stands for, and how much of it is used. In the value of an
attribute, a name without its semicolon is no reference in front of a letter, a digit or `=`. -/
def referenceText (inValue : Bool) (cs : List Char) : List Char × Nat :=
  match cs with
  | '#' :: _ => numericReference cs
  | _ =>
    match reference? cs with
    | none => (['&'], 0)
    | some (name, chars) =>
      let next := (cs.drop name.length).head?
      if inValue && name.getLast? != some ';' && next.any (fun c => c == '=' || c.isAlphanum) then
        (['&'], 0)
      else (chars, name.length)

/-- Whether a text starts with a numeric reference that lacks its semicolon. -/
def startsUnterminated (cs : List Char) : Bool :=
  match cs with
  | '&' :: '#' :: rest =>
    let used := (numericReference ('#' :: rest)).2
    2 ≤ used && ('#' :: rest)[used - 1]? != some ';'
  | _ => false

/-- A text with its references resolved. -/
def resolveReferences (inValue : Bool) (cs : List Char) : List Char :=
  match cs with
  | [] => []
  | '&' :: rest =>
    let (chars, used) := referenceText inValue rest
    chars ++ resolveReferences inValue (rest.drop used)
  | c :: rest => c :: resolveReferences inValue rest
termination_by cs.length
decreasing_by all_goals simp; try omega

/-! ### Tags -/

/-- The value of an attribute and what follows it, from behind the equals sign and blanks. -/
def attributeValue (cs : List Char) : Option (List Char × List Char) :=
  let quotedBy (q : Char) (cs : List Char) : Option (List Char × List Char) :=
    match cs.dropWhile (· != q) with
    | [] => none
    | _ :: rest => some (cs.takeWhile (· != q), rest)
  match cs with
  | '"' :: rest => quotedBy '"' rest
  | '\'' :: rest => quotedBy '\'' rest
  | cs =>
    let stops (c : Char) := isHtmlSpace c || c == '>'
    some (cs.takeWhile (!stops ·), cs.dropWhile (!stops ·))

/-- The name of an attribute and what follows it. An equals sign at the start belongs to it. -/
def attributeName (cs : List Char) : List Char × List Char :=
  let stops (c : Char) := isHtmlSpace c || c == '/' || c == '>' || c == '='
  match cs with
  | '=' :: rest => ('=' :: rest.takeWhile (!stops ·), rest.dropWhile (!stops ·))
  | cs => (cs.takeWhile (!stops ·), cs.dropWhile (!stops ·))

/-- The visible form of NUL in a value. -/
def visible (cs : List Char) : List Char := cs.map fun c => if c = '\x00' then '\ufffd' else c

/-- The attributes up to the end of a tag, whether it closes itself, and what follows it. A text
that ends inside the tag gives nothing. -/
def tagRest : Nat → List Attribute → List Char → Option (List Attribute × Bool × List Char)
  | 0, _, _ => none
  | fuel + 1, done, cs =>
    match cs.dropWhile isHtmlSpace with
    | [] => none
    | '>' :: rest => some (done, false, rest)
    | '/' :: '>' :: rest => some (done, true, rest)
    | '/' :: rest => tagRest fuel done rest
    | cs =>
      let (name, rest) := attributeName cs
      let key := String.ofList (name.map lowerName)
      let add (value : List Char) :=
        if (done.lookup key).isSome then done
        else done ++ [(key, .ofList (resolveReferences true (visible value)))]
      match rest.dropWhile isHtmlSpace with
      | '=' :: behind =>
        match behind.dropWhile isHtmlSpace with
        | '>' :: rest => some (add [], false, rest)
        | behind =>
          match attributeValue behind with
          | none => none
          | some (value, rest) => tagRest fuel (add value) rest
      | rest => tagRest fuel (add []) rest

/-- The tag whose name starts here; nothing if the text ends in it. -/
def tag (isEnd : Bool) (cs : List Char) : Option (Token × List Char) :=
  let stops (c : Char) := isHtmlSpace c || c == '/' || c == '>'
  let name := String.ofList ((cs.takeWhile (!stops ·)).map lowerName)
  (tagRest (cs.length + 1) [] (cs.dropWhile (!stops ·))).map fun (attributes, closing, rest) =>
    (if isEnd then .endTag name else .startTag name attributes closing, rest)

/-! ### Comments and document types -/

/-- The text of a comment behind its opening, and what follows it. -/
def commentBody : List Char → List Char × List Char
  | [] => ([], [])
  | '-' :: '-' :: '>' :: rest => ([], rest)
  | '-' :: '-' :: '!' :: '>' :: rest => ([], rest)
  | ['-', '-', '!'] => ([], [])
  | ['-', '-'] => ([], [])
  | ['-'] => ([], [])
  | c :: rest =>
    let p := commentBody rest
    (c :: p.1, p.2)

/-- The comment behind its opening, which an early end can close. -/
def comment (cs : List Char) : Token × List Char :=
  match cs with
  | '>' :: rest => (.comment "", rest)
  | '-' :: '>' :: rest => (.comment "", rest)
  | cs =>
    let p := commentBody cs
    (.comment (.ofList (visible p.1)), p.2)

/-- A comment that is none of the format's own: all up to the next closing bracket. -/
def bogusComment (cs : List Char) : Token × List Char :=
  (.comment (.ofList (visible (cs.takeWhile (· != '>')))), (cs.dropWhile (· != '>')).drop 1)

/-- Whether a text starts with a word in any case. -/
def startsWithWord (word : String) (cs : List Char) : Bool :=
  (cs.take word.length).map Char.toLower == word.toList.map Char.toLower

/-- The quoted identifier behind blanks: its text, whether its quote is closed, and what follows. A
closing bracket breaks it off. -/
def identifier? (cs : List Char) : Option (String × Bool × List Char) :=
  match cs.dropWhile isHtmlSpace with
  | [] => none
  | q :: rest =>
    if q = '"' || q = '\'' then
      let inside := rest.takeWhile fun c => c != q && c != '>'
      let behind := rest.drop inside.length
      some (.ofList (visible inside), behind.head? == some q, behind.drop 1)
    else none

/-- What follows the next closing bracket. -/
def behindBracket (cs : List Char) : List Char := (cs.dropWhile (· != '>')).drop 1

/-- The end of a document type behind all its identifiers. What else stands there is skipped, and
`tolerant` says that it does no harm. -/
def doctypeEnd (tolerant : Bool) (name : String) (publicId systemId : Option String)
    (cs : List Char) : Token × List Char :=
  let correct :=
    match cs.dropWhile isHtmlSpace with
    | [] => false
    | '>' :: _ => true
    | _ => tolerant
  (.doctype name publicId systemId correct, behindBracket cs)

/-- The system identifier of a document type and what follows it. -/
def doctypeSystem (name : String) (publicId : Option String) (cs : List Char) :
    Token × List Char :=
  match identifier? cs with
  | none => (.doctype name publicId none false, behindBracket cs)
  | some (systemId, false, rest) => (.doctype name publicId (some systemId) false, rest)
  | some (systemId, true, rest) => doctypeEnd true name publicId (some systemId) rest

/-- The public identifier of a document type and what follows it. -/
def doctypePublic (name : String) (cs : List Char) : Token × List Char :=
  match identifier? cs with
  | none => (.doctype name none none false, behindBracket cs)
  | some (publicId, false, rest) => (.doctype name (some publicId) none false, rest)
  | some (publicId, true, rest) =>
    if (identifier? rest).isSome then doctypeSystem name (some publicId) rest
    else doctypeEnd false name (some publicId) none rest

/-- A document type behind its keyword. It is correct only if it is complete. -/
def doctype (cs : List Char) : Token × List Char :=
  let stops (c : Char) := isHtmlSpace c || c == '>'
  let body := cs.dropWhile isHtmlSpace
  let name := String.ofList ((body.takeWhile (!stops ·)).map lowerName)
  let behind := (body.dropWhile (!stops ·)).dropWhile isHtmlSpace
  if name.isEmpty then (.doctype name none none false, behindBracket behind)
  else if startsWithWord "public" behind then doctypePublic name (behind.drop 6)
  else if startsWithWord "system" behind then doctypeSystem name none (behind.drop 6)
  else doctypeEnd false name none none behind

/-- The token behind an opening bracket, and what follows it. The bracket is text if it opens
nothing; no token and no rest stand for a tag that the text ends in. -/
def markupToken (cs : List Char) : Option Token × List Char :=
  let ofTag (t : Option (Token × List Char)) : Option Token × List Char :=
    match t with
    | some (t, rest) => (some t, rest)
    | none => (none, [])
  match cs with
  | '!' :: '-' :: '-' :: rest => let p := comment rest; (some p.1, p.2)
  | '!' :: rest =>
    if startsWithWord "doctype" rest then let p := doctype (rest.drop 7); (some p.1, p.2)
    else let p := bogusComment rest; (some p.1, p.2)
  | '/' :: c :: rest =>
    if c.isAlpha then ofTag (tag true (c :: rest))
    else if c = '>' then (none, rest)
    else let p := bogusComment (c :: rest); (some p.1, p.2)
  | ['/'] => (some (.text ['<', '/']), [])
  | '?' :: rest => let p := bogusComment ('?' :: rest); (some p.1, p.2)
  | c :: rest =>
    if c.isAlpha then ofTag (tag false (c :: rest)) else (some (.text ['<']), c :: rest)
  | [] => (some (.text ['<']), [])

/-! ### The next token -/

/-- Whether a text starts with the name of a tag, in any case, which ends there. -/
def startsWithTagName (name : String) (cs : List Char) : Bool :=
  startsWithWord name cs &&
    (cs.drop name.length).head?.any fun c => isHtmlSpace c || c == '/' || c == '>'

/-- Whether a text starts with an end tag. -/
def startsWithEndTag (name : String) (cs : List Char) : Bool :=
  match cs with
  | '<' :: '/' :: rest => startsWithTagName name rest
  | _ => false

/-- The text up to the end tag of an element that holds no markup, and what follows. -/
def untilEndTag (name : String) : List Char → List Char × List Char
  | [] => ([], [])
  | c :: rest =>
    if startsWithEndTag name (c :: rest) then ([], c :: rest)
    else
      let p := untilEndTag name rest
      (c :: p.1, p.2)

/-- Where a script is read: in its text, in a comment, or in a script inside the comment, whose end
tag is text; with the number of dashes directly in front. -/
inductive ScriptDepth where
  | text
  | comment (dashes : Nat)
  | inner (dashes : Nat)

/-- Where a script is read behind a character, which `rest` follows. -/
def ScriptDepth.behind (depth : ScriptDepth) (c : Char) (rest : List Char) : ScriptDepth :=
  match depth, c with
  | .text, '<' => if rest.take 3 = ['!', '-', '-'] then .comment 0 else .text
  | .text, _ => .text
  | .comment _, '<' => if startsWithTagName "script" rest then .inner 0 else .comment 0
  | .inner _, '<' => if startsWithEndTag "script" (c :: rest) then .comment 0 else .inner 0
  | .comment n, '-' => .comment (n + 1)
  | .inner n, '-' => .inner (n + 1)
  | .comment n, '>' => if 2 ≤ n then .text else .comment 0
  | .inner n, '>' => if 2 ≤ n then .text else .inner 0
  | .comment _, _ => .comment 0
  | .inner _, _ => .inner 0

/-- Whether an end tag ends the script here. -/
def ScriptDepth.canEnd : ScriptDepth → Bool
  | .inner _ => false
  | _ => true

/-- The text of a script up to its end tag, and what follows. -/
def untilScriptEnd (depth : ScriptDepth) : List Char → List Char × List Char
  | [] => ([], [])
  | c :: rest =>
    if depth.canEnd && startsWithEndTag "script" (c :: rest) then ([], c :: rest)
    else
      let p := untilScriptEnd (depth.behind c rest) rest
      (c :: p.1, p.2)

/-- The next token where markup counts. -/
def dataToken (cs : List Char) : Option Token × List Char :=
  match cs with
  | '<' :: rest => markupToken rest
  | cs =>
    (some (.text (resolveReferences false (cs.takeWhile (· != '<')))), cs.dropWhile (· != '<'))

/-- The next token of a text that is not empty, and what follows it. `name` is the current element
when it holds no markup. Marked sections are text, but only inside foreign vocabularies. -/
def nextToken (mode : TextMode) (name : String) (cs : List Char) : Option Token × List Char :=
  match mode with
  | .plain => (some (.text (visible cs)), [])
  | .data => dataToken cs
  | .foreign =>
    match Text.dropPattern? ['<', '!', '[', 'C', 'D', 'A', 'T', 'A', '['] cs with
    | none => dataToken cs
    | some rest =>
      let p := (Text.breakOn [']', ']', '>'] rest).getD (rest, [])
      (some (.text p.1), p.2)
  | .references => withoutMarkup (resolveReferences false ∘ visible) (untilEndTag name cs)
  | .raw => withoutMarkup visible (untilEndTag name cs)
  | .script => withoutMarkup visible (untilScriptEnd .text cs)
where
  withoutMarkup (read : List Char → List Char) : List Char × List Char → Option Token × List Char
    | ([], rest) => markupToken (rest.drop 1)
    | (content, rest) => (some (.text (read content)), rest)

end Scribe.Html
