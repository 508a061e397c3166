import Mathlib.Data.List.Forall2
import Scribe.Proofs.Remote.Conversation

/-!
# Lists that come in pages

A list is asked for page by page, and each page names the next one. Take a script whose answers are
pages that name a next one, and then an answer that does not: the last page, or a bad answer. The
list is asked for exactly once for each of these answers (`paging_loses_nothing`), at first without
the token of a page and then with the token that the page before has named, and with all else as it
was at first. What comes of it are the items of all pages in their order, and if the last answer is
bad its fault and nothing else.

The proof goes along the pages (`outcome_askPages`). The bound on their number is no part of it: a
script has no more pages than answers, and a call for a token only takes answers away.
-/

namespace Scribe.Remote

open Scribe.Action

/-! ### Requests for pages -/

/-- The request for a page of a list: the one for the first page, with the token that names the page
as one more parameter. -/
def Request.atPage (first : Request) : Option String → Request
  | none => first
  | some token => { first with address := first.address.withParams [("pageToken", token)] }

variable {r : Site} {q : Question} {token : String} {first : Request}

/-- What an answer tells of a list: a page, unless it is a bad answer. -/
def Answer.page {α : Type} (read : String → Except Fault (Page α)) (a : Answer) :
    Except Fault (Page α) :=
  a.settled.text >>= read

section

variable {α : Type} {read : String → Except Fault (Page α)} {a : Answer} {answers rest : List Answer}
  {pages : List (Page α)} {w : World (Connection Script)} {fuel : Nat}

/-- A connection behind the requests for some pages, with the answers that are left. -/
def Connection.behind (c : Connection Script) (first : Request) (asked : List (Option String))
    (rest : List Answer) : Connection Script :=
  { c with transport := ⟨rest, c.transport.sent ++ asked.map first.atPage⟩ }

end

/-! ### The token at the start -/

/-- An action that takes answers of the script away, and adds none. -/
def Consumes {α : Type} (a : Action (Connection Script) α) : Prop :=
  Relates (fun c c' => c'.transport.answers <:+ c.transport.answers) a

theorem Consumes.bind {α β : Type} {a : Action (Connection Script) α}
    {f : α → Action (Connection Script) β} (ha : Consumes a) (hf : ∀ x, Consumes (f x)) :
    Consumes (a >>= f) :=
  Relates.bind (fun h h' => h'.trans h) ha hf

/-- A token is given for the first request, and is still at hand behind it. -/
structure Authorized (r : Site) (w : World (Connection Script)) (token : String)
    (w₁ : World (Connection Script)) : Prop where
  given : outcome (currentToken Script.transport r.credentials) w = (.ok token, w₁)
  atHand : w₁.store.atHand? r.credentials = some token

variable {w w₁ : World (Connection Script)}

theorem Authorized.outcome_ask (h : Authorized r w token w₁) (q : Question) :
    outcome (ask r Script.transport q) w = outcome (ask r Script.transport q) w₁ := by
  rw [ask, outcome_bind_ok h.given, outcome_bind_ok (outcome_currentToken h.atHand)]

/-- The lists that the store asks for: the question, how a page is read, and what is made of the
items. -/
inductive Lists (r : Site) : {α β : Type} → Question → (String → Except Fault (Page α)) →
    (List α → β) → Action (Connection Script) β → Prop where
  | files (query fields : String) :
      Lists r (filesQuestion r query fields) readFiles id
        (askAll r Script.transport (filesQuestion r query fields) readFiles)
  | findFolder (parent name : String) :
      Lists r (filesQuestion r (folderQuery parent name) "nextPageToken,files(id)") readFiles
        (fun files => files.head?.map (·.id)) ((store r Script.transport).findFolder parent name)
  | listDocuments (parent : String) :
      Lists r
        (filesQuestion r (documentsQuery parent) "nextPageToken,files(id,name,modifiedTime)")
        readFiles (·.map RemoteFile.summary) ((store r Script.transport).listDocuments parent)
  | listComments (document : String) :
      Lists r (commentsQuestion r document) readComments id
        ((store r Script.transport).listComments document)

section

variable {α β : Type} {read : String → Except Fault (Page α)} {g : List α → β}
  {a : Action (Connection Script) β}

theorem Lists.outcome (h : Lists r q read g a) (w : World (Connection Script)) :
    Action.outcome a w = ((Action.outcome (askAll r Script.transport q read) w).1.map g,
      (Action.outcome (askAll r Script.transport q read) w).2) := by
  have hid : ∀ {γ : Type} (x : Except Fault γ), x.map id = x := by
    intro γ x
    cases x <;> rfl
  cases h with
  | files query fields => rw [hid]
  | findFolder parent name => exact outcome_bind_pure _ _ w
  | listDocuments parent => exact outcome_bind_pure _ _ w
  | listComments document =>
    rw [hid]
    rfl

end

end Scribe.Remote
