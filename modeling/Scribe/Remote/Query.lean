/-!
# Search queries

Files are searched by queries in which names and ids stand between single quotes. A quote or a
backslash in them has a backslash in front, so that a name ends where the query says.
-/

namespace Scribe.Remote

/-- The type of folders. -/
def folderType : String := "application/vnd.google-apps.folder"

/-- The type of documents. -/
def documentType : String := "application/vnd.google-apps.document"

/-- A text as it stands between the quotes of a query. -/
def escapeQuoted (cs : List Char) : List Char :=
  cs.flatMap fun c => if c = '\\' || c = '\'' then ['\\', c] else [c]

/-- A text in quotes. -/
def quotedInQuery (s : String) : String := "'" ++ .ofList (escapeQuoted s.toList) ++ "'"

/-- The query for the files of a type in a folder. -/
def childrenQuery (parent type : String) : String :=
  quotedInQuery parent ++ " in parents and mimeType = '" ++ type ++ "' and trashed = false"

/-- The query for the folders with a name in a folder. -/
def folderQuery (parent name : String) : String :=
  "name = " ++ quotedInQuery name ++ " and " ++ childrenQuery parent folderType

/-- The query for the documents in a folder. -/
def documentsQuery (parent : String) : String := childrenQuery parent documentType

end Scribe.Remote
