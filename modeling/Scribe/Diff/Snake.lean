/-!
# The middle snake

A shortest edit script of two texts is found from its middle: a forward search from the start and a
backward search from the end run in turn, one more edit at a time, until they meet on a diagonal. A
`Frontier` holds for each diagonal how far a search has come. The frontiers are handed from one
search to the next as they are, and cells that a search has not reached show what an earlier one
left there.
-/

namespace Scribe.Diff

/-- How far a search has come on each diagonal, counted from `-center`. -/
structure Frontier where
  center : Nat
  cells : Array Nat

namespace Frontier

/-- A frontier for diagonals up to `center`, with zeros. -/
def zero (center : Nat) : Frontier := ⟨center, .replicate (2 * center + 1) 0⟩

/-- The cell of a diagonal. -/
def get (f : Frontier) (k : Int) : Nat := (f.cells[(k + f.center).toNat]?).getD 0

/-- Set the cell of a diagonal. -/
def set (f : Frontier) (k : Int) (x : Nat) : Frontier :=
  { f with cells := f.cells.setIfInBounds (k + f.center).toNat x }

/-- The furthest point of diagonal `k` that one more edit reaches, before equal lines are passed. -/
def step (f : Frontier) (d k : Int) : Nat :=
  if k = -d ∨ (k ≠ d ∧ f.get (k - 1) < f.get (k + 1)) then f.get (k + 1) else f.get (k - 1) + 1

end Frontier

/-- The most edits of one direction that two texts of given lengths can need, plus one. -/
def searchBound (n m : Nat) : Nat := (n + m + 1) / 2 + 1

/-- The number of equal elements at the start of two lists. -/
def commonStart [DecidableEq α] : List α → List α → Nat
  | a :: as, b :: bs => if a = b then commonStart as bs + 1 else 0
  | _, _ => 0

/-- The diagonals that `d` edits can end on, from the highest to the lowest. -/
def diagonals (d : Nat) : List Int := (List.range (d + 1)).map fun (i : Nat) => (d : Int) - 2 * i

/-- The two frontiers of a search. -/
structure Search where
  forward : Frontier
  backward : Frontier

/-- The number of equal lines of two texts from given places on. -/
def commonFrom (old new : Array String) (i j : Nat) : Nat :=
  if h : i < old.size ∧ j < new.size then
    if old[i] = new[j] then commonFrom old new (i + 1) (j + 1) + 1 else 0
  else 0
termination_by old.size - i

variable (old new oldReversed newReversed : Array String)

/-- Extend the forward search on one diagonal; the point where the searches meet, if they do. -/
def extendForward (n m d : Nat) (s : Search) (k : Int) : Search × Option (Nat × Nat) :=
  let δ : Int := n - m
  let x := s.forward.step d k
  let y : Int := x - k
  let x' := if 0 ≤ y then x + commonFrom old new x y.toNat else x
  let s := { s with forward := s.forward.set k x' }
  if δ % 2 ≠ 0 ∧ (k - δ).natAbs < d ∧ n ≤ x' + s.backward.get (-(k - δ)) then
    (s, some (x, y.toNat))
  else (s, none)

/-- Extend the backward search on one diagonal; the point where the searches meet, if they do. -/
def extendBackward (n m d : Nat) (s : Search) (k : Int) : Search × Option (Nat × Nat) :=
  let δ : Int := n - m
  let x := s.backward.step d k
  let y : Int := x - k
  let passed := if 0 ≤ y then commonFrom oldReversed newReversed x y.toNat else 0
  let x' := x + passed
  let s := { s with backward := s.backward.set k x' }
  if δ % 2 = 0 ∧ (k - δ).natAbs ≤ d ∧ n ≤ x' + s.forward.get (-(k - δ)) then
    (s, some (n - x', m - (y.toNat + passed)))
  else (s, none)

/-- Run one direction over its diagonals until the searches meet. -/
def sweep (extend : Search → Int → Search × Option (Nat × Nat)) :
    List Int → Search → Search × Option (Nat × Nat)
  | [], s => (s, none)
  | k :: ks, s =>
    match extend s k with
    | (s, some p) => (s, some p)
    | (s, none) => sweep extend ks s

/-- Search with `d` edits, then with one more, `fuel` times. -/
def searchFrom (n m : Nat) : Nat → Nat → Search → Search × Option (Nat × Nat)
  | 0, _, s => (s, none)
  | fuel + 1, d, s =>
    match sweep (extendForward old new n m d) (diagonals d) s with
    | (s, some p) => (s, some p)
    | (s, none) =>
      match sweep (extendBackward oldReversed newReversed n m d) (diagonals d) s with
      | (s, some p) => (s, some p)
      | (s, none) => searchFrom n m fuel (d + 1) s

/-- The start of the middle snake of two texts, in lines of each, and the frontiers left behind. -/
def middleSnake (s : Search) (old new : List String) : Search × Option (Nat × Nat) :=
  let n := old.length
  let m := new.length
  let s := { forward := s.forward.set 1 0, backward := s.backward.set 1 0 }
  searchFrom old.toArray new.toArray old.reverse.toArray new.reverse.toArray n m
    (searchBound n m) 0 s

end Scribe.Diff
