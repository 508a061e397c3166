import Mathlib.Data.List.TakeWhile
import Scribe.Proofs.Text.Search
import Scribe.Remote.Query

/-!
# What a query says

A query is read from left to right. A quote opens a quoted text; in it a backslash takes the next
character as it is, and the first other quote closes it (`readQuoted?`). What is not quoted stands
for itself. Read in this way, a query says what it was made for, whatever characters the names and
ids have (`queries_read_back`): every quoted text ends where the query closes it, and stands for the
name or the id that was put in.

The one fact about the characters is `readQuoted?_escapeQuoted`, an induction on the text in quotes.
All else follows part by part (`queryParts?_quoted`).
-/

namespace Scribe.Remote

open Text

/-! ### Reading a query -/

/-- Read a quoted text from behind its opening quote: what it stands for, and what is behind the
quote that closes it. -/
def readQuoted? : List Char → Option (List Char × List Char)
  | [] => none
  | '\'' :: rest => some ([], rest)
  | '\\' :: [] => none
  | '\\' :: c :: rest => (readQuoted? rest).map fun p => (c :: p.1, p.2)
  | c :: rest => (readQuoted? rest).map fun p => (c :: p.1, p.2)

/-- A part of a query. -/
inductive QueryPart where
  /-- What stands for itself. -/
  | bare (text : String)
  /-- What a quoted text stands for. -/
  | quoted (value : String)
  deriving DecidableEq

/-- What is left behind a quoted text is shorter. -/
theorem length_readQuoted?_lt {cs value rest : List Char}
    (h : readQuoted? cs = some (value, rest)) : rest.length < cs.length := by
  fun_induction readQuoted? cs generalizing value with
  | case1 => cases h
  | case2 rest =>
    cases h
    exact Nat.lt_succ_self _
  | case3 => cases h
  | case4 c cs ih =>
    obtain ⟨⟨value, behind⟩, hread, heq⟩ := Option.map_eq_some_iff.1 h
    cases heq
    exact Nat.lt_succ_of_lt (Nat.lt_succ_of_lt (ih hread))
  | case5 c cs _ _ _ ih =>
    obtain ⟨⟨value, behind⟩, hread, heq⟩ := Option.map_eq_some_iff.1 h
    cases heq
    exact Nat.lt_succ_of_lt (ih hread)

/-- The parts of a query: a bare text, perhaps empty, in front of every quoted text and at the end.
A query in which a quoted text is not closed cannot be read. -/
def queryParts? (cs : List Char) : Option (List QueryPart) :=
  match _hquote : cs.dropWhile (· != '\'') with
  | [] => some [.bare (.ofList cs)]
  | _ :: inside =>
    match _hread : readQuoted? inside with
    | none => none
    | some (value, behind) =>
      (queryParts? behind).map fun parts =>
        .bare (.ofList (cs.takeWhile (· != '\''))) :: .quoted (.ofList value) :: parts
termination_by cs.length
decreasing_by
  have hinside := (List.dropWhile_suffix (l := cs) (· != '\'')).length_le
  have hbehind := length_readQuoted?_lt _hread
  rw [_hquote, List.length_cons] at hinside
  omega

/-- A text without the backslashes that take the next character as it is. -/
def unescapeQuoted : List Char → List Char
  | [] => []
  | ['\\'] => ['\\']
  | '\\' :: c :: rest => c :: unescapeQuoted rest
  | c :: rest => c :: unescapeQuoted rest

/-! ### Escaped texts -/

theorem escapeQuoted_cons (c : Char) (cs : List Char) :
    escapeQuoted (c :: cs) =
      (if c = '\\' || c = '\'' then ['\\', c] else [c]) ++ escapeQuoted cs :=
  List.flatMap_cons

/-- **A quoted text ends where it is closed**, whatever follows, and stands for what was escaped. -/
theorem readQuoted?_escapeQuoted (value rest : List Char) :
    readQuoted? (escapeQuoted value ++ '\'' :: rest) = some (value, rest) := by
  induction value with
  | nil => rfl
  | cons c value ih =>
    rw [escapeQuoted_cons]
    by_cases hc : c = '\\' ∨ c = '\''
    · -- An escaped character is read behind its backslash, so it neither escapes nor closes.
      rw [if_pos (by simpa using hc)]
      show readQuoted? ('\\' :: c :: (escapeQuoted value ++ '\'' :: rest)) = _
      rw [readQuoted?, ih]
      rfl
    · rw [if_neg (by simpa using hc)]
      rw [not_or] at hc
      show readQuoted? (c :: (escapeQuoted value ++ '\'' :: rest)) = _
      rw [readQuoted?, ih]
      · rfl
      · exact hc.2
      · exact fun h _ => hc.1 h
      · exact fun _ _ h _ => hc.1 h

theorem unescapeQuoted_escapeQuoted (value : List Char) :
    unescapeQuoted (escapeQuoted value) = value := by
  induction value with
  | nil => rfl
  | cons c value ih =>
    rw [escapeQuoted_cons]
    by_cases hc : c = '\\' ∨ c = '\''
    · rw [if_pos (by simpa using hc)]
      show unescapeQuoted ('\\' :: c :: escapeQuoted value) = _
      rw [unescapeQuoted, ih]
    · rw [if_neg (by simpa using hc)]
      rw [not_or] at hc
      show unescapeQuoted (c :: escapeQuoted value) = _
      rw [unescapeQuoted, ih]
      · exact fun h _ => hc.1 h
      · exact fun _ _ h _ => hc.1 h

/-- Escaping is two replacements, one behind the other: first of the backslashes, so that those that
are put in front of quotes stay single. -/
theorem escapeQuoted_eq_replaceAll (value : List Char) :
    escapeQuoted value =
      replaceAll ['\''] ['\\', '\''] (replaceAll ['\\'] ['\\', '\\'] value) := by
  rw [replaceAll_singleton, replaceAll_singleton, List.flatMap_assoc, escapeQuoted]
  congr 1
  funext c
  by_cases hback : c = '\\'
  · rw [hback]
    rfl
  · by_cases hquote : c = '\''
    · rw [hquote]
      rfl
    · simp [hback, hquote]

/-! ### Queries -/

/-- A bare text and a quoted one are the first two parts of a query. -/
theorem queryParts?_quoted {text : String} (htext : '\'' ∉ text.toList) (value : String)
    (behind : List Char) :
    queryParts? (text.toList ++ ((quotedInQuery value).toList ++ behind)) =
      (queryParts? behind).map fun parts => .bare text :: .quoted value :: parts := by
  have hall : ∀ c ∈ text.toList, (c != '\'') = true := by
    intro c hc
    simp only [bne_iff_ne, ne_eq]
    rintro rfl
    exact htext hc
  have hquoted : (quotedInQuery value).toList ++ behind =
      '\'' :: (escapeQuoted value.toList ++ '\'' :: behind) := by
    simp [quotedInQuery]
  have hdrop : (text.toList ++ ((quotedInQuery value).toList ++ behind)).dropWhile (· != '\'') =
      '\'' :: (escapeQuoted value.toList ++ '\'' :: behind) := by
    rw [List.dropWhile_append_of_pos hall, hquoted]
    rfl
  have htake : (text.toList ++ ((quotedInQuery value).toList ++ behind)).takeWhile (· != '\'') =
      text.toList := by
    rw [List.takeWhile_append_of_pos hall, hquoted]
    exact List.append_nil _
  rw [queryParts?]
  split
  · next hnil =>
    rw [hdrop] at hnil
    cases hnil
  · next quote inside hcons =>
    rw [hdrop] at hcons
    cases hcons
    split
    · next hnone =>
      rw [readQuoted?_escapeQuoted] at hnone
      cases hnone
    · next value' behind' hread =>
      rw [readQuoted?_escapeQuoted] at hread
      cases hread
      rw [htake, String.ofList_toList, String.ofList_toList]

/-- What is not quoted is one part. -/
theorem queryParts?_bare {text : String} (htext : '\'' ∉ text.toList) :
    queryParts? text.toList = some [.bare text] := by
  have hdrop : text.toList.dropWhile (· != '\'') = [] := by
    rw [List.dropWhile_eq_nil_iff]
    intro c hc
    simp only [bne_iff_ne, ne_eq]
    rintro rfl
    exact htext hc
  rw [queryParts?]
  split
  · rw [String.ofList_toList]
  · next hcons =>
    rw [hdrop] at hcons
    cases hcons

/-- What the query for the files of a type says, behind a bare text. The type needs no escapes. -/
theorem queryParts?_childrenQuery {front type : String} (hfront : '\'' ∉ front.toList)
    (htype : quotedInQuery type = "'" ++ type ++ "'") (parent : String) :
    queryParts? (front.toList ++ (childrenQuery parent type).toList) =
      some [.bare front, .quoted parent, .bare " in parents and mimeType = ", .quoted type,
        .bare " and trashed = false"] := by
  have hquery : (childrenQuery parent type).toList =
      (quotedInQuery parent).toList ++ (" in parents and mimeType = ".toList ++
        ((quotedInQuery type).toList ++ " and trashed = false".toList)) := by
    rw [htype]
    simp [childrenQuery]
  rw [hquery, queryParts?_quoted hfront, queryParts?_quoted (by decide),
    queryParts?_bare (by decide)]
  rfl

/-- The parts of the query for a folder by its name. -/
theorem queryParts?_folderQuery (parent name : String) :
    queryParts? (folderQuery parent name).toList =
      some [.bare "name = ", .quoted name, .bare " and ", .quoted parent,
        .bare " in parents and mimeType = ", .quoted folderType, .bare " and trashed = false"] := by
  have hquery : (folderQuery parent name).toList =
      "name = ".toList ++ ((quotedInQuery name).toList ++
        (" and ".toList ++ (childrenQuery parent folderType).toList)) := by
    simp [folderQuery]
  rw [hquery, queryParts?_quoted (by decide), queryParts?_childrenQuery (by decide) (by decide)]
  rfl

/-- The parts of the query for documents. It starts with a quoted text. -/
theorem queryParts?_documentsQuery (parent : String) :
    queryParts? (documentsQuery parent).toList =
      some [.bare "", .quoted parent, .bare " in parents and mimeType = ", .quoted documentType,
        .bare " and trashed = false"] := by
  have hfront : '\'' ∉ "".toList := by decide
  have htype : quotedInQuery documentType = "'" ++ documentType ++ "'" := by decide
  have hparts := queryParts?_childrenQuery hfront htype parent
  rwa [String.toList_empty, List.nil_append] at hparts

/-- **What a query says is what it was made for.** Read by the rule of quoted texts, the query for a
folder holds the name and the parent, and the query for documents the parent, each as one quoted
text between the words of the query, whatever characters they have. Behind the reading is that an
escaped text ends at the quote that closes it, whatever follows; escaping, which is two replacements
one behind the other, is undone by taking the escapes away; and other names or parents give another
query. -/
theorem queries_read_back :
    (∀ parent name, queryParts? (folderQuery parent name).toList =
        some [.bare "name = ", .quoted name, .bare " and ", .quoted parent,
          .bare " in parents and mimeType = ", .quoted folderType,
          .bare " and trashed = false"]) ∧
      (∀ parent, queryParts? (documentsQuery parent).toList =
        some [.bare "", .quoted parent, .bare " in parents and mimeType = ", .quoted documentType,
          .bare " and trashed = false"]) ∧
      (∀ value rest, readQuoted? (escapeQuoted value ++ '\'' :: rest) = some (value, rest)) ∧
      (∀ value, unescapeQuoted (escapeQuoted value) = value ∧
        escapeQuoted value =
          replaceAll ['\''] ['\\', '\''] (replaceAll ['\\'] ['\\', '\\'] value)) ∧
      Function.Injective fun p : String × String => folderQuery p.1 p.2 := by
  refine ⟨queryParts?_folderQuery, queryParts?_documentsQuery, readQuoted?_escapeQuoted, ?_, ?_⟩
  · intro value
    exact ⟨unescapeQuoted_escapeQuoted value, escapeQuoted_eq_replaceAll value⟩
  · rintro ⟨parent, name⟩ ⟨parent', name'⟩ h
    -- Equal queries are read as the same parts.
    change folderQuery parent name = folderQuery parent' name' at h
    have hparts := queryParts?_folderQuery parent name
    rw [h, queryParts?_folderQuery parent' name'] at hparts
    simp only [Option.some.injEq, List.cons.injEq, QueryPart.quoted.injEq, true_and,
      and_true] at hparts
    rw [hparts.1, hparts.2]

/-- An id that would close its quotes and go on as a query stays between them. -/
example : queryParts? (documentsQuery "x\\' or '").toList =
    some [.bare "", .quoted "x\\' or '", .bare " in parents and mimeType = ",
      .quoted documentType, .bare " and trashed = false"] := by
  decide +kernel

end Scribe.Remote
