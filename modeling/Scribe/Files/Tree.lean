import Scribe.Files.Path
import Scribe.Text.Utf8

/-!
# File trees

The files that the program sees are a tree of folders and files. A path is followed part by part:
two dots lead back to the folder around, a name to an entry, and a part behind a file leads nowhere.
-/

namespace Scribe.Files

/-- A file with its bytes, or a folder with its entries. -/
inductive Tree where
  | file (content : List UInt8)
  | folder (entries : List (String × Tree))

/-- Why a path leads nowhere or a file cannot be read. -/
inductive FileFault where
  | notFound
  | notAFolder
  | isAFolder
  | invalidUtf8
  | invalidName
  deriving DecidableEq, Repr

/-- The wording of a fault. -/
def FileFault.message : FileFault → String
  | .notFound => "No such file or directory (os error 2)"
  | .notAFolder => "Not a directory (os error 20)"
  | .isAFolder => "Is a directory (os error 21)"
  | .invalidUtf8 => "stream did not contain valid UTF-8"
  | .invalidName => "file name contained an unexpected NUL byte"

namespace Tree

/-- The tree with a node at the end of some names; missing folders are made. -/
def insert (node : Tree) : List String → Tree → Tree
  | [], _ => node
  | name :: rest, t =>
    let entries := match t with
      | .folder es => es
      | .file _ => []
    let inner := insert node rest ((entries.lookup name).getD (.folder []))
    .folder (entries.filter (·.1 != name) ++ [(name, inner)])

/-- Make a folder at the end of some names, unless something is there. -/
def insertFolder : List String → Tree → Tree
  | [], t => t
  | name :: rest, t =>
    let entries := match t with
      | .folder es => es
      | .file _ => []
    let inner := insertFolder rest ((entries.lookup name).getD (.folder []))
    .folder (entries.filter (·.1 != name) ++ [(name, inner)])

/-- A place in a tree: the names that lead to it with the folders they are in, innermost first, and
what is there. -/
structure Place where
  way : List (String × Tree)
  here : Tree

/-- Follow the parts of a path from a place. -/
def follow (p : Place) : List String → Except FileFault Place
  | [] => .ok p
  | part :: rest =>
    match p.here with
    | .file _ => .error .notAFolder
    | .folder entries =>
      if part = "" ∨ part = "." then follow p rest
      else if part = ".." then
        match p.way with
        | [] => follow p rest
        | (_, outer) :: way => follow ⟨way, outer⟩ rest
      else
        match entries.lookup part with
        | none => .error .notFound
        | some inner => follow ⟨(part, p.here) :: p.way, inner⟩ rest

end Tree

/-- What the program sees of the machine: the files from the root on, and the working directory,
which may be gone. -/
structure Disk where
  root : Tree
  currentDir : Option Path

namespace Disk

/-- Follow a path from the root, or from the working directory. -/
def locate (d : Disk) (p : Path) : Except FileFault Tree.Place :=
  if p.toList.contains '\x00' then .error .invalidName
  else if p = "" then .error .notFound
  else if p.isAbsolute then Tree.follow ⟨[], d.root⟩ (Path.parts p)
  else
    match d.currentDir with
    | none => .error .notFound
    | some base => Tree.follow ⟨[], d.root⟩ (Path.parts base ++ Path.parts p)

/-- Whether a path leads anywhere. -/
def has (d : Disk) (p : Path) : Bool := (d.locate p).isOk

/-- The absolute path, without dots, of the place that a path leads to. -/
def canonical (d : Disk) (p : Path) : Except FileFault Path :=
  (d.locate p).map fun place => "/" ++ "/".intercalate (place.way.map (·.1)).reverse

/-- The bytes of a file. -/
def readBytes (d : Disk) (p : Path) : Except FileFault (List UInt8) := do
  match (← d.locate p).here with
  | .file content => return content
  | .folder _ => throw .isAFolder

/-- The text of a file. -/
def readText (d : Disk) (p : Path) : Except FileFault String := do
  match Text.decode? (← d.readBytes p) with
  | some text => return text
  | none => throw .invalidUtf8

end Disk

end Scribe.Files
