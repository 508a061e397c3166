/-!
# Lengths in UTF-16 units

A document counts its text in UTF-16 units: a character below U+10000 takes one unit, any other
takes two. `units` is that measure; it is additive over concatenation (`unitCount_append`).
-/

namespace Scribe.Text

/-- The number of UTF-16 units of one character. -/
def unitsOf (c : Char) : Nat := if c.toNat < 0x10000 then 1 else 2

/-- The number of UTF-16 units of a list of characters. -/
def unitCount : List Char → Nat
  | [] => 0
  | c :: cs => unitsOf c + unitCount cs

/-- The number of UTF-16 units of a text. -/
def units (s : String) : Nat := unitCount s.toList

theorem unitCount_append (a b : List Char) : unitCount (a ++ b) = unitCount a + unitCount b := by
  induction a with
  | nil => simp [unitCount]
  | cons c cs ih => simp [unitCount, ih, Nat.add_assoc]

/-- Where a scan of a text has passed `target` units: the byte that it stands at. The scan has passed
some units already, and looks before it goes on, and again at the end. -/
def byteAfter? (target : Nat) : (byte passed : Nat) → List Char → Option Nat
  | byte, passed, [] => if passed = target then some byte else none
  | byte, passed, c :: cs =>
    if passed = target then some byte
    else byteAfter? target (byte + c.utf8Size) (passed + unitsOf c) cs

end Scribe.Text
