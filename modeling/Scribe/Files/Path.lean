/-!
# Paths

A path is a text whose parts are separated by slashes; one that starts with a slash is absolute. As
a text it is kept as it was written. Two paths are *alike* when their components are equal: empty
parts do not count, nor do dots other than one at the start, but two dots are a component like any
other.
-/

namespace Scribe.Files

/-- A path, as it is written. -/
abbrev Path := String

namespace Path

/-- Whether a path starts at the root. -/
def isAbsolute (p : Path) : Bool := p.toList.head? == some '/'

/-- The parts of a path between slashes, as they are written. -/
def parts (p : Path) : List String := (p.toList.splitOn '/').map .ofList

/-- Whether a part counts as a component when it is not the first one. -/
def counts (part : String) : Bool := part != "" && part != "."

/-- The components of a path; that of the root comes first in an absolute path. -/
def components (p : Path) : List String :=
  match parts p with
  | [] => []
  | first :: rest =>
    (if p.isAbsolute then ["/"] else if first = "" then [] else [first]) ++ rest.filter counts

/-- Whether two paths have the same components. -/
def alike (p q : Path) : Bool := p.components == q.components

/-- A path below a base; an absolute path stays as it is. -/
def under (base p : Path) : Path :=
  if p.isAbsolute then p
  else
    match base.toList.getLast? with
    | none => p
    | some '/' => base ++ p
    | some _ => base ++ "/" ++ p

/-- A path without what does not count at its end; `rooted` if a slash starts it. -/
def dropIdle (rooted : Bool) : List String → List String
  | [] => []
  | part :: before =>
    if counts part || (before.isEmpty && (rooted || part != "")) then part :: before
    else dropIdle rooted before

/-- The path without its last component, unless it is the root or empty. -/
def parent? (p : Path) : Option Path :=
  match dropIdle p.isAbsolute (parts p).reverse with
  | [] => none
  | [_] => if p.isAbsolute then none else some ""
  | _ :: before =>
    match dropIdle p.isAbsolute before with
    | [""] => some "/"
    | left => some ("/".intercalate left.reverse)

end Path

end Scribe.Files
