/-!
# Written doubles

A finite double is written with the fewest decimal digits that read back to it, and of those the
digits nearest to its value. The digits are found by exact arithmetic: the double is `m * 2 ^ q`,
and the reals that round to it form an interval around that value. On each decimal grid, from the
coarsest on, the two grid points next to the value are tested; the first grid with a hit wins.

A decimal that is read becomes its first nineteen or twenty digits as a double, multiplied or
divided by a power of ten, so the last bit of a long number may differ from the nearest double.
-/

namespace Scribe.Number

/-- A positive value `m * 2 ^ q`; below a power of two the gap to the next value is narrower. -/
structure Binary where
  m : Nat
  q : Int
  narrowBelow : Bool
  deriving DecidableEq, Repr

/-- The magnitude that the bits of a finite double stand for. -/
def Binary.ofBits (bits : UInt64) : Binary :=
  let e := ((bits >>> 52) &&& 0x7FF).toNat
  let f := (bits &&& 0xFFFFFFFFFFFFF).toNat
  if e = 0 then ⟨f, -1074, false⟩ else ⟨0x10000000000000 + f, (e : Int) - 1075, f == 0 && 1 < e⟩

/-- The decimal `digits * 10 ^ exponent`. -/
structure Decimal where
  digits : Nat
  exponent : Int
  deriving DecidableEq, Repr

/-- Compare `a * 10 ^ i` with `n * 2 ^ j`. -/
def compareScaled (a : Nat) (i : Int) (n : Nat) (j : Int) : Ordering :=
  compare (a * Nat.pow 10 i.toNat * Nat.pow 2 (-j).toNat)
    (n * Nat.pow 2 j.toNat * Nat.pow 10 (-i).toNat)

/-- Whether a decimal lies among the reals that round to the value. -/
def Binary.readsBack (x : Binary) (d : Decimal) : Bool :=
  let low := if x.narrowBelow then 4 * x.m - 1 else 4 * x.m - 2
  let closed := x.m % 2 == 0
  let atLow := compareScaled d.digits d.exponent low (x.q - 2)
  let atHigh := compareScaled d.digits d.exponent (4 * x.m + 2) (x.q - 2)
  (atLow == .gt || (closed && atLow == .eq)) && (atHigh == .lt || (closed && atHigh == .eq))

/-- The least `k` with `m * 2 ^ q < 10 ^ k`, for a positive value. -/
def Binary.scale (x : Binary) : Int :=
  let bits : Int := x.q + (x.m.log2 : Int)
  let guess := bits * 30103 / 100000
  match [guess - 1, guess, guess + 1, guess + 2].find? fun k =>
      compareScaled 1 k x.m x.q == .gt with
  | some k => k
  | none => guess + 3

/-- The largest multiple of `10 ^ e` that is at most the value, as a factor. -/
def Binary.floorOn (x : Binary) (e : Int) : Nat :=
  (x.m * Nat.pow 2 x.q.toNat * Nat.pow 10 (-e).toNat) /
    (Nat.pow 10 e.toNat * Nat.pow 2 (-x.q).toNat)

/-- The hit of one grid: of the two points next to the value that read back, the nearer. -/
def Binary.hitOn? (x : Binary) (e : Int) : Option Decimal :=
  let n := x.floorOn e
  let below : Decimal := ⟨n, e⟩
  let above : Decimal := ⟨n + 1, e⟩
  match x.readsBack below, x.readsBack above with
  | true, false => some below
  | false, true => some above
  | false, false => none
  | true, true =>
    match compareScaled (2 * n + 1) e (2 * x.m) x.q with
    | .gt => some below
    | .lt => some above
    | .eq => some (if n % 2 = 0 then below else above)

/-- The shortest decimal that reads back to a positive value. -/
def Binary.shortest (x : Binary) : Decimal :=
  let k := x.scale
  match (List.range 17).findSome? fun (n : Nat) => x.hitOn? (k - 1 - (n : Int)) with
  | some d => d
  | none => ⟨x.floorOn (k - 18), k - 18⟩

/-- Move the zeros at the end of the digits into the exponent, up to `fuel` of them. -/
def Decimal.strip : Nat → Decimal → Decimal
  | 0, d => d
  | fuel + 1, d =>
    if d.digits % 10 = 0 ∧ d.digits ≠ 0 then strip fuel ⟨d.digits / 10, d.exponent + 1⟩ else d

/-- The written form of a decimal: with a point for leading digits from `10 ^ -5` to `10 ^ 15`,
otherwise with a signed exponent. A point has a digit on both sides. -/
def Decimal.toText (d : Decimal) : String :=
  let ds := Nat.toDigits 10 d.digits
  let lead : Int := d.exponent + (ds.length : Int) - 1
  if 0 ≤ d.exponent ∧ lead ≤ 15 then
    .ofList (ds ++ List.replicate d.exponent.toNat '0' ++ ['.', '0'])
  else if 0 ≤ lead ∧ lead ≤ 15 then
    .ofList (ds.take (lead.toNat + 1) ++ '.' :: ds.drop (lead.toNat + 1))
  else if -5 ≤ lead ∧ lead < 0 then
    .ofList ('0' :: '.' :: List.replicate (-lead - 1).toNat '0' ++ ds)
  else
    let sign := if 0 ≤ lead then ['+'] else ['-']
    let rest := if ds.length = 1 then [] else '.' :: ds.drop 1
    .ofList (ds.take 1 ++ rest ++ 'e' :: sign ++ Nat.toDigits 10 lead.natAbs)

/-- The sign bit of a double. -/
def isNegative (bits : UInt64) : Bool := bits >>> 63 == 1

/-- The bits of a double's magnitude. -/
def magnitude (bits : UInt64) : UInt64 := bits &&& 0x7FFFFFFFFFFFFFFF

/-- The shortest decimal of a finite double without its sign; that of zero is zero. -/
def shortestDecimal (bits : UInt64) : Decimal :=
  if magnitude bits = 0 then ⟨0, 0⟩
  else (Binary.ofBits (magnitude bits)).shortest.strip 20

/-- The written form of a finite double. -/
def writeDouble (bits : UInt64) : String :=
  (if isNegative bits then "-" else "") ++ (shortestDecimal bits).toText

/-- The written form of a finite double without an exponent, with a digit behind the point. -/
def writePositional (bits : UInt64) : String :=
  let d := shortestDecimal bits
  let ds := Nat.toDigits 10 d.digits
  let point : Int := (ds.length : Int) + d.exponent
  let text :=
    if 0 ≤ d.exponent then ds ++ List.replicate d.exponent.toNat '0' ++ ['.', '0']
    else if 0 < point then ds.take point.toNat ++ '.' :: ds.drop point.toNat
    else '0' :: '.' :: List.replicate (-point).toNat '0' ++ ds
  (if isNegative bits then "-" else "") ++ .ofList text

/-- The double nearest to `10 ^ n`, for the exponents up to 308 that are finite. -/
def powerOfTen (n : Nat) : Float := Float.ofScientific 1 false n

/-- Scale a double by a power of ten; there is no result when it grows beyond the finite doubles.
Each step below the range of powers divides by the largest one. -/
def scaleByTen? (f : Float) (exponent : Int) : Nat → Option Float
  | 0 => none
  | fuel + 1 =>
    if exponent.natAbs ≤ 308 then
      if 0 ≤ exponent then
        let g := f * powerOfTen exponent.natAbs
        if g.isInf then none else some g
      else some (f / powerOfTen exponent.natAbs)
    else if f == 0.0 then some f
    else if 0 ≤ exponent then none
    else scaleByTen? (f / powerOfTen 308) (exponent + 308) fuel

/-- The bits of the double read from a sign, a natural number below `2 ^ 64` and an exponent. -/
def readDouble? (negative : Bool) (significand : Nat) (exponent : Int) : Option UInt64 :=
  (scaleByTen? (Float.ofNat significand) exponent (exponent.natAbs / 308 + 2)).map fun f =>
    (if negative then -f else f).toBits

end Scribe.Number
