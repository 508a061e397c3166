/-!
# Extents

An extent is a half-open range of document offsets, `[start, stop)`. Offsets count UTF-16 units and
the first of a body is 1.
-/

namespace Scribe.Edit

/-- The offsets from `start` up to, but not including, `stop`. -/
structure Extent where
  start : Nat
  stop : Nat
  deriving DecidableEq, Repr

namespace Extent

/-- The extent of `length` units from `start`; there is none of no units. -/
def ofLength? (start length : Nat) : Option Extent :=
  if 0 < length then some ⟨start, start + length⟩ else none

/-- The number of units in an extent. -/
def length (e : Extent) : Nat := e.stop - e.start

/-- Whether an extent holds no unit. -/
def isEmpty (e : Extent) : Bool := e.start ≥ e.stop

/-- Whether two extents have a unit in common. -/
def overlaps (a b : Extent) : Bool := a.start < b.stop && b.start < a.stop

/-- Whether every unit of the second extent is in the first. -/
def contains (a b : Extent) : Bool := a.start ≤ b.start && b.stop ≤ a.stop

/-- The written form of an extent. -/
def toText (e : Extent) : String :=
  "[" ++ toString e.start ++ ", " ++ toString e.stop ++ ")"

end Extent

end Scribe.Edit
