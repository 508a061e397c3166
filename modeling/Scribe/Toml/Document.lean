import Scribe.Toml.Scan
import Scribe.Toml.Table

/-!
# TOML documents

`Toml.parse?` reads a document and gives it as data, in the order of its lines. A time is given as
an object with one member, whose name no key of a document is meant to have. A text that breaks a
rule of the format gives nothing.
-/

namespace Scribe.Toml

open Json

/-- The name under which a time is given. -/
def timeName : String := "$__toml_private_datetime"

/-- Arrays and tables in a value may not be nested deeper than this. -/
def depthLimit : Nat := 79

/-- The most parts that a key may have. -/
def keyLimit : Nat := 79

/-- A key: the parts in front, and the last one. -/
def keyPath? (cs : List Char) : Option ((List String × String) × List Char) := do
  let (parts, rest) ← key (cs.length + 1) cs
  let last ← parts.getLast?
  if keyLimit < parts.length then none else return ((parts.dropLast, last), rest)

/-- A value that is neither an array nor a table. -/
def simple? (cs : List Char) : Option (Value × List Char) := do
  match cs with
  | '"' :: _ | '\'' :: _ =>
    let (s, rest) ← string? cs
    return (.string (.ofList s), rest)
  | 't' :: _ => return (.bool true, ← Text.dropPattern? ['t', 'r', 'u', 'e'] cs)
  | 'f' :: _ => return (.bool false, ← Text.dropPattern? ['f', 'a', 'l', 's', 'e'] cs)
  | cs =>
    if startsTime cs then
      let (text, rest) ← time? cs
      return (.object [(timeName, .string (.ofList text))], rest)
    else
      let (n, rest) ← number? cs
      match n with
      | .inl i => return (.number (.integer i), rest)
      | .inr bits => return (.number (.double bits), rest)

mutual

/-- A value, nested to a depth. -/
def value? : Nat → Nat → List Char → Option (Value × List Char)
  | 0, _, _ => none
  | fuel + 1, depth, cs =>
    match cs with
    | '[' :: rest =>
      if depth = 0 then none
      else (items? fuel (depth - 1) (skipBlank rest.length rest)).map fun p => (.array p.1, p.2)
    | '\x7b' :: rest =>
      if depth = 0 then none
      else
        match skipSpaces rest with
        | '\x7d' :: rest => some (.object [], rest)
        | rest => inline? fuel (depth - 1) .emptyTable rest
    | cs => simple? cs

/-- The items of an array, up to its closing bracket. -/
def items? : Nat → Nat → List Char → Option (List Value × List Char)
  | 0, _, _ => none
  | fuel + 1, depth, cs =>
    match cs with
    | ']' :: rest => some ([], rest)
    | cs =>
      match value? fuel depth cs with
      | none => none
      | some (v, rest) =>
        match skipBlank rest.length rest with
        | ',' :: rest =>
          (items? fuel depth (skipBlank rest.length rest)).map fun p => (v :: p.1, p.2)
        | ']' :: rest => some ([v], rest)
        | _ => none

/-- The rest of a table on one line. -/
def inline? : Nat → Nat → Item → List Char → Option (Value × List Char)
  | 0, _, _, _ => none
  | fuel + 1, depth, t, cs =>
    match keyPath? cs with
    | some ((path, name), '=' :: rest) =>
      match value? fuel depth (skipSpaces rest) with
      | none => none
      | some (v, rest) =>
        match t.addValue path name v, skipSpaces rest with
        | some t, ',' :: rest => inline? fuel depth t rest
        | some t, '\x7d' :: rest => some (t.toValue, rest)
        | _, _ => none
    | _ => none

end

/-- A header behind its opening brackets, which are closed by `close`. -/
def header? (close : List Char) (cs : List Char) : Option (List String × List Char) := do
  let ((path, name), rest) ← keyPath? cs
  let rest ← Text.dropPattern? close rest
  return (path ++ [name], ← lineEnd? rest)

/-- The document after all lines of a text. -/
def lines : Nat → Draft → List Char → Option Draft
  | 0, _, _ => none
  | fuel + 1, d, cs =>
    match skipSpaces cs with
    | [] => some d
    | '[' :: '[' :: rest => do
      let (path, rest) ← header? [']', ']'] rest
      lines fuel (← d.openListTable path) rest
    | '[' :: rest => do
      let (path, rest) ← header? [']'] rest
      lines fuel (← d.openTable path) rest
    | cs =>
      match lineEnd? cs with
      | some rest => lines fuel d rest
      | none =>
        match keyPath? cs with
        | some ((path, name), '=' :: rest) => do
          let (v, rest) ← value? (2 * rest.length + 2) depthLimit (skipSpaces rest)
          let opened ← d.opened.addValue path name v
          lines fuel { d with opened } (← lineEnd? rest)
        | _ => none

/-- The data of a document. -/
def parse? (text : String) : Option Value := do
  let cs := match text.toList with
    | '\ufeff' :: cs => cs
    | cs => cs
  let d ← lines (cs.length + 1) .start cs
  return (← d.close).toValue

end Scribe.Toml
