import Scribe.Diff.Snake

/-!
# Edit scripts

A script is a list of steps that lead from an old text to a new one: runs of lines that stay, go or
come. It is found by splitting both texts at their middle snake, behind what they have in common at
the start and before what they have in common at the end. Deletions first, then insertions, are
moved as far up as they go and then as far down, and fuse with their like on the way.
-/

namespace Scribe.Diff

/-- What happens to a run of lines. -/
inductive Kind where
  | equal
  | delete
  | insert
  deriving DecidableEq, Repr

/-- A run of lines with its places in the old and the new text. -/
structure Step where
  kind : Kind
  oldAt : Nat
  newAt : Nat
  length : Nat
  deriving DecidableEq, Repr

/-! ### Splitting at the middle -/

/-- A step, unless it has no lines. -/
def stepOf (kind : Kind) (oldAt newAt length : Nat) : List Step :=
  if length = 0 then [] else [⟨kind, oldAt, newAt, length⟩]

/-- The script of two texts that start at given lines. A split that leaves one side as large as the
whole is not followed. -/
def conquer (old new : List String) (oldAt newAt : Nat) (s : Search) : List Step × Search :=
  let start := commonStart old new
  let old' := old.drop start
  let new' := new.drop start
  let finish := commonStart old'.reverse new'.reverse
  let a := old'.take (old'.length - finish)
  let b := new'.take (new'.length - finish)
  let oldAt' := oldAt + start
  let newAt' := newAt + start
  let (inner, s) : List Step × Search :=
    if a.isEmpty ∨ b.isEmpty then
      (stepOf .delete oldAt' newAt' a.length ++ stepOf .insert oldAt' newAt' b.length, s)
    else
      match middleSnake s a b with
      | (s, some (x, y)) =>
        if _h : (a.take x).length + (b.take y).length < old.length + new.length ∧
            (a.drop x).length + (b.drop y).length < old.length + new.length then
          let (first, s) := conquer (a.take x) (b.take y) oldAt' newAt' s
          let (second, s) := conquer (a.drop x) (b.drop y) (oldAt' + x) (newAt' + y) s
          (first ++ second, s)
        else
          ([⟨.delete, oldAt', newAt', a.length⟩, ⟨.insert, oldAt', newAt', b.length⟩], s)
      | (s, none) =>
        ([⟨.delete, oldAt', newAt', a.length⟩, ⟨.insert, oldAt', newAt', b.length⟩], s)
  (stepOf .equal oldAt newAt start ++ inner ++
    stepOf .equal (oldAt' + a.length) (newAt' + b.length) finish, s)
termination_by old.length + new.length
decreasing_by
  · exact _h.1
  · exact _h.2

/-! ### Compaction

The step that moves stands between the steps before it, nearest first, and those behind it. -/

/-- A script with one step in focus. -/
structure Focus where
  before : List Step
  this : Step
  behind : List Step

/-- The lines of a run. -/
def slice (lines : List String) (start length : Nat) : List String :=
  (lines.drop start).take length

variable (old new : List String)

/-- The lines that a step adds to the new text. -/
def added (s : Step) : List String :=
  match s.kind with
  | .delete => []
  | _ => slice new s.newAt s.length

/-- Move the step in focus up past the step before it; none when it stays. -/
def moveUp? (f : Focus) : Option Focus :=
  match f.before with
  | [] => none
  | p :: before =>
    match p.kind with
    | .equal =>
      let shared :=
        commonStart (slice old p.oldAt p.length).reverse (added new f.this).reverse
      if 0 < shared then
        let behind :=
          match f.behind with
          | q :: rest =>
            if q.kind = .equal then
              { q with oldAt := q.oldAt - shared, newAt := q.newAt - shared,
                       length := q.length + shared } :: rest
            else
              ⟨.equal, p.oldAt + p.length - shared, f.this.newAt + f.this.length - shared,
                shared⟩ :: q :: rest
          | [] =>
            [⟨.equal, p.oldAt + p.length - shared, f.this.newAt + f.this.length - shared, shared⟩]
        let this := { f.this with oldAt := f.this.oldAt - shared, newAt := f.this.newAt - shared }
        let p := { p with length := p.length - shared }
        some ⟨if p.length = 0 then before else p :: before, this, behind⟩
      else if p.length = 0 then some { f with before := before }
      else none
    | _ =>
      if p.kind = f.this.kind then
        some { f with before := before, this := { p with length := p.length + f.this.length } }
      else some { before := before, this := f.this, behind := p :: f.behind }

/-- Move the step in focus down past the step behind it; none when it stays. -/
def moveDown? (f : Focus) : Option Focus :=
  match f.behind with
  | [] => none
  | q :: behind =>
    match q.kind with
    | .equal =>
      let shared := commonStart (slice old q.oldAt q.length) (added new f.this)
      if 0 < shared then
        let before :=
          match f.before with
          | p :: rest =>
            if p.kind = .equal then { p with length := p.length + shared } :: rest
            else ⟨.equal, q.oldAt, f.this.newAt, shared⟩ :: p :: rest
          | [] => [⟨.equal, q.oldAt, f.this.newAt, shared⟩]
        let this := { f.this with oldAt := f.this.oldAt + shared, newAt := f.this.newAt + shared }
        let q := { q with oldAt := q.oldAt + shared, newAt := q.newAt + shared,
                          length := q.length - shared }
        some ⟨before, this, if q.length = 0 then behind else q :: behind⟩
      else if q.length = 0 then some { f with behind := behind }
      else none
    | _ =>
      if q.kind = f.this.kind then
        some { f with behind := behind, this := { f.this with length := f.this.length + q.length } }
      else some { before := q :: f.before, this := f.this, behind := behind }

/-- Repeat a move until the step stays. -/
def settle (move : Focus → Option Focus) : Nat → Focus → Focus
  | 0, f => f
  | fuel + 1, f =>
    match move f with
    | some f' => settle move fuel f'
    | none => f

/-- Settle every step of one kind in turn. `fuel` bounds the moves of one step. -/
def compactKind (kind : Kind) (moves : Nat) : Nat → List Step → List Step → List Step
  | 0, before, steps => before.reverse ++ steps
  | _, before, [] => before.reverse
  | fuel + 1, before, s :: steps =>
    if s.kind = kind then
      let f := settle (moveUp? old new) moves ⟨before, s, steps⟩
      let f := settle (moveDown? old new) moves f
      compactKind kind moves fuel (f.this :: f.before) f.behind
    else compactKind kind moves fuel (s :: before) steps

/-- A script with its deletions, and then its insertions, settled. -/
def compact (steps : List Step) : List Step :=
  let lines := old.length + new.length + 1
  let moves := 2 * (lines + steps.length)
  let steps := compactKind old new .delete moves (2 * lines + steps.length) [] steps
  compactKind old new .insert moves (2 * lines + steps.length) [] steps

/-- The script that leads from the old lines to the new ones. -/
def script : List Step :=
  let bound := searchBound old.length new.length
  compact old new (conquer old new 0 0 ⟨.zero bound, .zero bound⟩).1

end Scribe.Diff
