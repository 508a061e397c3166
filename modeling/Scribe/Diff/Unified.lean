import Scribe.Diff.Script

/-!
# Unified diffs

A unified diff names the two texts and then lists hunks: each has its place in both texts and its
lines, marked as gone, come or unchanged. Three unchanged lines stand around a change; a longer run
between two changes ends one hunk and opens the next. Deletions and insertions side by side form one
change, in which all lines that go stand before all lines that come.
-/

namespace Scribe.Diff

/-! ### Lines with their ends -/

/-- The first line of a text with its end, a line feed, a carriage return or both, and what
follows. -/
def firstLine : List Char → List Char × List Char
  | [] => ([], [])
  | '\r' :: '\n' :: cs => (['\r', '\n'], cs)
  | c :: cs =>
    if c = '\n' ∨ c = '\r' then ([c], cs)
    else
      let p := firstLine cs
      (c :: p.1, p.2)

theorem length_firstLine_lt (c : Char) (cs : List Char) :
    (firstLine (c :: cs)).2.length < (c :: cs).length := by
  induction cs generalizing c with
  | nil => unfold firstLine; split <;> simp_all [firstLine]
  | cons d ds ih =>
    unfold firstLine
    split
    · simp
    · next heq =>
      obtain ⟨-, h⟩ := List.cons.inj heq
      obtain ⟨-, rfl⟩ := List.cons.inj h
      simp only [List.length_cons]
      omega
    · next heq =>
      obtain ⟨rfl, rfl⟩ := List.cons.inj heq
      split
      · simp
      · have := ih d
        simp only [List.length_cons] at this ⊢
        omega

/-- The lines of a text, each with its end. -/
def lines (cs : List Char) : List (List Char) :=
  match cs with
  | [] => []
  | c :: rest => (firstLine (c :: rest)).1 :: lines (firstLine (c :: rest)).2
termination_by cs.length
decreasing_by exact length_firstLine_lt c rest

/-- Whether a line is the last of a text that does not end its last line. -/
def isUnended (line : String) : Bool :=
  match line.toList.getLast? with
  | some c => c != '\n' && c != '\r'
  | none => true

/-! ### Changes -/

/-- A run that stays, or a change of a run of old lines into a run of new lines. -/
inductive Change where
  | equal (oldAt newAt length : Nat)
  | replace (oldAt oldLength newAt newLength : Nat)
  deriving DecidableEq, Repr

/-- The old lines that a change covers: the first and the one behind the last. -/
def Change.oldRange : Change → Nat × Nat
  | .equal o _ l => (o, o + l)
  | .replace o l _ _ => (o, o + l)

/-- The new lines that a change covers: the first and the one behind the last. -/
def Change.newRange : Change → Nat × Nat
  | .equal _ n l => (n, n + l)
  | .replace _ _ n l => (n, n + l)

/-- The change of neighbouring steps: the deletions and the insertions among them, fused. -/
structure Pending where
  deleted : Option Step
  inserted : Option Step

/-- The change that pending steps amount to. -/
def Pending.flush : Pending → List Change
  | ⟨some d, some i⟩ => [.replace d.oldAt d.length i.newAt i.length]
  | ⟨some d, none⟩ => [.replace d.oldAt d.length d.newAt 0]
  | ⟨none, some i⟩ => [.replace i.oldAt 0 i.newAt i.length]
  | ⟨none, none⟩ => []

/-- Fuse a step with one of its kind before it. -/
def fuse (earlier : Option Step) (s : Step) : Option Step :=
  match earlier with
  | some e => some { e with length := e.length + s.length }
  | none => some s

/-- The changes of a script. -/
def changesFrom : Pending → List Step → List Change
  | p, [] => p.flush
  | p, s :: rest =>
    match s.kind with
    | .delete => changesFrom { p with deleted := fuse p.deleted s } rest
    | .insert => changesFrom { p with inserted := fuse p.inserted s } rest
    | .equal =>
      let tail := changesFrom ⟨none, none⟩ rest
      p.flush ++ match tail with
        | .equal _ _ l :: more => .equal s.oldAt s.newAt (s.length + l) :: more
        | _ => .equal s.oldAt s.newAt s.length :: tail

/-! ### Hunks -/

/-- The unchanged lines that are shown around a change. -/
def context : Nat := 3

/-- Shorten an unchanged run at the start of a script to its last lines. -/
def shortenFirst : List Change → List Change
  | .equal o n l :: rest => .equal (o + (l - context)) (n + (l - context)) (min l context) :: rest
  | cs => cs

/-- Shorten an unchanged run at the end of a script to its first lines. -/
def shortenLast (cs : List Change) : List Change :=
  match cs.getLast? with
  | some (.equal o n l) => cs.dropLast ++ [.equal o n (min l context)]
  | _ => cs

/-- Split changes into hunks at long unchanged runs; `hunk` is the open hunk, last change first. -/
def hunksFrom : List Change → List Change → List (List Change)
  | hunk, [] =>
    match hunk with
    | [] => []
    | [.equal ..] => []
    | _ => [hunk.reverse]
  | hunk, .equal o n l :: rest =>
    if 2 * context < l then
      (.equal o n context :: hunk).reverse ::
        hunksFrom [.equal (o + (l - context)) (n + (l - context)) context] rest
    else hunksFrom (.equal o n l :: hunk) rest
  | hunk, c :: rest => hunksFrom (c :: hunk) rest

/-- The place of a hunk in one text; an empty place is named by the line before it. -/
def rangeText (first behind : Nat) : String :=
  let length := behind - first
  if length = 1 then toString (first + 1)
  else toString (if length = 0 then first else first + 1) ++ "," ++ toString length

/-- The heading of a hunk. -/
def hunkHeading (hunk : List Change) : String :=
  match hunk.head?, hunk.getLast? with
  | some a, some z =>
    "@@ -" ++ rangeText a.oldRange.1 z.oldRange.2 ++ " +" ++ rangeText a.newRange.1 z.newRange.2
      ++ " @@\n"
  | _, _ => ""

/-- A line of a hunk behind its mark. -/
def markedLine (mark line : String) : String :=
  mark ++ line ++ if isUnended line then "\n\\ No newline at end of file\n" else ""

/-- The lines of a change. -/
def changeText (old new : List String) : Change → String
  | .equal o _ l => String.join ((slice old o l).map (markedLine " "))
  | .replace o l n m =>
    String.join ((slice old o l).map (markedLine "-")) ++
      String.join ((slice new n m).map (markedLine "+"))

/-- The unified diff of two texts under the names `a/id` and `b/id`; none if they are the same. -/
def unified? (current proposed id : String) : Option String :=
  if current = proposed then none
  else
    let old := (lines current.toList).map String.ofList
    let new := (lines proposed.toList).map String.ofList
    let changes := shortenLast (shortenFirst (changesFrom ⟨none, none⟩ (script old new)))
    let hunks := hunksFrom [] changes
    let shown := hunks.map fun h => hunkHeading h ++ String.join (h.map (changeText old new))
    some ((if hunks.isEmpty then "" else "--- a/" ++ id ++ "\n+++ b/" ++ id ++ "\n")
      ++ String.join shown)

end Scribe.Diff
