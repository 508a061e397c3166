import Scribe.Json.Value

/-!
# TOML tables

The lines of a document build one table. A header opens a table, and a key with dots opens tables on
the way; a table may be opened once by a header, and dots reach only into tables that dots have
opened. A rule that is broken makes the whole document invalid, which is `none` here.
-/

namespace Scribe.Toml

open Json

/-- What a key stands for: a value, a table, or a list of tables. A table is `implied` if it was
only opened on the way to another, and `dotted` if a key with dots did that. -/
inductive Item where
  | leaf (value : Value)
  | table (implied dotted : Bool) (entries : List (String × Item))
  | list (tables : List Item)

namespace Item

/-- A table without entries. -/
def emptyTable : Item := .table false false []

/-- Replace the entry of a key, or add it at the end. -/
def setEntry (key : String) (item : Item) : List (String × Item) → List (String × Item)
  | [] => [(key, item)]
  | (k, x) :: rest => if k = key then (k, item) :: rest else (k, x) :: setEntry key item rest

/-- Go down a path from a table and change what is there; tables that are missing are opened. -/
def descend (dotted : Bool) (change : Item → Option (Item × α)) :
    List String → Item → Option (Item × α)
  | [], t => change t
  | key :: path, .table i d entries => do
    let (inner, a) ← match entries.lookup key with
      | none => descend dotted change path (.table true dotted [])
      | some (.leaf _) => none
      | some (.list tables) => do
        let last ← tables.getLast?
        let (inner, a) ← descend dotted change path last
        return (Item.list (tables.dropLast ++ [inner]), a)
      | some (.table i d entries) =>
        if dotted && !i then none else descend dotted change path (.table i d entries)
    return (.table i d (setEntry key inner entries), a)
  | _, _ => none

/-- Add a value under a key with the path in front of it. -/
def addValue (path : List String) (key : String) (value : Value) (t : Item) : Option Item :=
  (descend true (fun
    | .table i d entries =>
      if d == path.isEmpty || (entries.lookup key).isSome then none
      else some (.table i d (entries ++ [(key, .leaf value)]), ())
    | _ => none) path t).map (·.1)

mutual

/-- An item as a value. -/
def toValue : Item → Value
  | .leaf v => v
  | .table _ _ entries => .object (entryValues entries)
  | .list tables => .array (listValues tables)

/-- The entries of a table as values. -/
def entryValues : List (String × Item) → List (String × Value)
  | [] => []
  | (key, x) :: rest => (key, x.toValue) :: entryValues rest

/-- A list of tables as values. -/
def listValues : List Item → List Value
  | [] => []
  | x :: rest => x.toValue :: listValues rest

end

end Item

/-- A document while its lines are read: the finished tables, and the one that a header has opened,
with its path; the path is empty before the first header. -/
structure Draft where
  root : Item
  opened : Item
  path : List String
  inList : Bool

namespace Draft

/-- The document before its first line. -/
def start : Draft := ⟨.emptyTable, .emptyTable, [], false⟩

/-- Put the open table where its path leads. -/
def close (d : Draft) : Option Item :=
  match d.path.getLast? with
  | none => some d.opened
  | some key =>
    (Item.descend false (fun
      | .table i dotted entries =>
        match entries.lookup key, d.inList with
        | none, false => some (.table i dotted (entries ++ [(key, d.opened)]), ())
        | none, true => some (.table i dotted (entries ++ [(key, .list [d.opened])]), ())
        | some (.list tables), true =>
          some (.table i dotted (Item.setEntry key (.list (tables ++ [d.opened])) entries), ())
        | _, _ => none
      | _ => none) d.path.dropLast d.root).map (·.1)

/-- Open a table by a header. One that was only implied keeps its entries. -/
def openTable (path : List String) (d : Draft) : Option Draft := do
  let root ← d.close
  let key ← path.getLast?
  let (root, opened) ← Item.descend false (fun
    | .table i dotted entries =>
      match entries.lookup key with
      | none => some (.table i dotted entries, Item.emptyTable)
      | some (.table true false inner) =>
        some (.table i dotted (entries.filter (·.1 != key)), .table false false inner)
      | _ => none
    | _ => none) path.dropLast root
  return ⟨root, opened, path, false⟩

/-- Open the next table of a list by a header. -/
def openListTable (path : List String) (d : Draft) : Option Draft := do
  let root ← d.close
  let key ← path.getLast?
  let (root, _) ← Item.descend false (fun
    | .table i dotted entries =>
      match entries.lookup key with
      | none | some (.list _) => some (Item.table i dotted entries, ())
      | _ => none
    | _ => none) path.dropLast root
  return ⟨root, .emptyTable, path, true⟩

end Draft

end Scribe.Toml
