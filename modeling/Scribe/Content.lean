import Scribe.Fault
import Scribe.Files.Tree

/-!
# Content

The Markdown of a document comes from a file, from standard input, or from the command line, where
it is written with escapes. A byte-order mark at the start of the content is not part of it; with
escapes it is dropped after they are read.
-/

namespace Scribe.Content

/-- A content without the byte-order mark at its start. -/
def stripMark : List Char → List Char
  | '\ufeff' :: cs => cs
  | cs => cs

/-- The character that a letter behind a backslash stands for. -/
def escaped? : Char → Option Char
  | 'n' => some '\n'
  | 't' => some '\t'
  | '\\' => some '\\'
  | '"' => some '"'
  | _ => none

/-- Read the escapes of a text. -/
def unescape : List Char → Except Fault (List Char)
  | [] => .ok []
  | '\\' :: [] => .error (.invalidContent "unterminated escape sequence")
  | '\\' :: c :: cs =>
    match escaped? c with
    | some d => (unescape cs).map (d :: ·)
    | none => .error (.invalidContent ("unsupported escape sequence: \\" ++ c.toString))
  | c :: cs => (unescape cs).map (c :: ·)

/-- The content that a text with escapes stands for. -/
def ofInline (text : String) : Except Fault String :=
  (unescape text.toList).map fun cs => .ofList (stripMark cs)

/-- The content that a text read from outside stands for. -/
def ofText (text : String) : String := .ofList (stripMark text.toList)

/-- The content of a file. -/
def ofFile (disk : Files.Disk) (path : Files.Path) : Except Fault String :=
  match disk.readText path with
  | .ok text => .ok (ofText text)
  | .error f =>
    .error (.invalidContent ("failed to read content file '" ++ path ++ "': " ++ f.message))

/-- The content that comes from standard input. -/
def ofInput (bytes : List UInt8) : Except Fault String :=
  match Text.decode? bytes with
  | some text => .ok (ofText text)
  | none =>
    .error (.invalidContent
      ("failed to read content from stdin: " ++ Files.FileFault.invalidUtf8.message))

end Scribe.Content
