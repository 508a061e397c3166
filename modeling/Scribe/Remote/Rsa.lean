import Scribe.Text.Base64

/-!
# RSA keys

A private key is a sequence of numbers: the version, which is zero, the modulus, the public and the
private exponent, the two primes, an exponent for each of them, and the inverse of the second prime
modulo the first. Lengths and numbers are written as short as they can be. A key that is too weak or
too great, or whose numbers do not fit together, is rejected. What cannot be seen from the numbers
shows when the key signs: the signature is raised to the public exponent, which must give back what
was signed.
-/

namespace Scribe.Remote.Rsa

open Text

/-- Why a key is rejected. -/
inductive Rejection where
  | invalidEncoding
  | versionNotSupported
  | unexpected
  | tooSmall
  | tooLarge
  | invalidComponent
  | inconsistentComponents
  | unevenPrimeLength
  deriving DecidableEq, Repr

/-- The name of a rejection. -/
def Rejection.name : Rejection → String
  | .invalidEncoding => "InvalidEncoding"
  | .versionNotSupported => "VersionNotSupported"
  | .unexpected => "UnexpectedError"
  | .tooSmall => "TooSmall"
  | .tooLarge => "TooLarge"
  | .invalidComponent => "InvalidComponent"
  | .inconsistentComponents => "InconsistentComponents"
  | .unevenPrimeLength => "PrivateModulusLenNotMultipleOf512Bits"

/-- The numbers of a key. -/
structure Numbers where
  modulus : Nat
  publicExponent : Nat
  privateExponent : Nat
  prime1 : Nat
  prime2 : Nat
  exponent1 : Nat
  exponent2 : Nat
  coefficient : Nat
  deriving Repr

/-! ### Reading -/

/-- The shortest form of a length, and the rest. Lengths have two bytes at most. -/
def length? : List UInt8 → Option (Nat × List UInt8)
  | 0x81 :: a :: rest => if a < 0x80 then none else some (a.toNat, rest)
  | 0x82 :: a :: b :: rest => if a = 0 then none else some (256 * a.toNat + b.toNat, rest)
  | a :: rest => if a < 0x80 then some (a.toNat, rest) else none
  | [] => none

/-- The value of a block with a tag, and what follows it. -/
def value? (tag : UInt8) : List UInt8 → Option (List UInt8 × List UInt8)
  | [] => none
  | t :: rest => do
    let (length, rest) ← length? rest
    if t != tag || rest.length < length then none
    else return (rest.take length, rest.drop length)

/-- A number that is not negative, in its shortest form, and what follows it. -/
def number? (cs : List UInt8) : Option (Nat × List UInt8) := do
  let (value, rest) ← value? 0x02 cs
  match value with
  | [] => none
  | 0 :: b :: _ => if b < 0x80 then none else return (natOfBytes value, rest)
  | b :: _ => if b < 0x80 then return (natOfBytes value, rest) else none

/-- Some numbers, and what follows them. -/
def numbers? : Nat → List UInt8 → Option (List Nat × List UInt8)
  | 0, cs => some ([], cs)
  | count + 1, cs => do
    let (n, rest) ← number? cs
    let (ns, rest) ← numbers? count rest
    return (n :: ns, rest)

/-! ### Sizes -/

/-- The number of bits of a number. -/
def bits (n : Nat) : Nat := if n = 0 then 0 else Nat.log2 n + 1

/-- The number of bytes of a number; zero has one. -/
def byteLength (n : Nat) : Nat := max 1 ((bits n + 7) / 8)

/-- The size of each prime of a modulus, in bits. -/
def halfBits (modulus : Nat) : Nat := (bits modulus + 1) / 2

/-- Reject a key for a reason, unless a condition holds. -/
def require (condition : Bool) (otherwise : Rejection) : Except Rejection Unit :=
  if condition then .ok () else .error otherwise

/-- A modulus has more than 24 and at most 1024 bytes, and is odd. -/
def checkModulus (m : Nat) : Except Rejection Unit := do
  require (24 < byteLength m) .unexpected
  require (byteLength m ≤ 1024) .tooLarge
  require (m % 2 = 1) .invalidComponent

/-- The modulus of a key has 2048 to 4096 bits, counted in whole bytes at the lower end. -/
def checkPublicModulus (n : Nat) : Except Rejection Unit := do
  checkModulus n
  require (2048 ≤ 8 * byteLength n) .tooSmall
  require (bits n ≤ 4096) .tooLarge

/-- The public exponent is odd, at least 65537, and has 33 bits at most. -/
def checkPublicExponent (e : Nat) : Except Rejection Unit := do
  require (byteLength e ≤ 5) .tooLarge
  require (e != 0) .invalidEncoding
  require (65537 ≤ e) .tooSmall
  require (bits e ≤ 33) .tooLarge
  require (e % 2 = 1) .invalidComponent

/-- A prime has half the bits of the modulus, in whole groups of 512. -/
def checkPrime (n p : Nat) : Except Rejection Unit := do
  checkModulus p
  require (bits p = halfBits n) .inconsistentComponents
  require (bits p % 512 = 0) .unevenPrimeLength

/-- The private exponent has more than half the bits of the modulus and is less than it. -/
def checkPrivateExponent (n d : Nat) : Except Rejection Unit := do
  match checkModulus d with
  | .ok () => pure ()
  | .error _ => throw .invalidComponent
  require (halfBits n < bits d) .inconsistentComponents
  require (d < n) .inconsistentComponents

/-- Check that the numbers of a key fit together, as far as that is seen without signing. -/
def Numbers.check (k : Numbers) : Except Rejection Unit := do
  checkPublicModulus k.modulus
  checkPublicExponent k.publicExponent
  checkPrime k.modulus k.prime1
  checkPrime k.modulus k.prime2
  require (k.prime1 * k.prime2 % k.modulus = 0) .inconsistentComponents
  checkPrivateExponent k.modulus k.privateExponent
  require (k.coefficient < k.prime1) .invalidComponent
  require (k.coefficient * k.prime2 % k.prime1 = 1) .inconsistentComponents
  require (k.exponent1 < k.prime1 && k.exponent1 % 2 = 1) .inconsistentComponents
  require (k.exponent2 < k.prime2 && k.exponent2 % 2 = 1) .inconsistentComponents

/-- What was read, or else the encoding is not valid. -/
def encoded (x : Option α) : Except Rejection α := x.elim (.error .invalidEncoding) .ok

/-- The key that data holds. What follows the numbers is looked at last. -/
def ofBytes (data : List UInt8) : Except Rejection Numbers := do
  let (inside, behind) ← encoded (value? 0x30 data)
  let (version, inside) ← encoded (number? inside)
  require (byteLength version = 1) .invalidEncoding
  require (version = 0) .versionNotSupported
  match ← encoded (numbers? 8 inside) with
  | ([n, e, d, p, q, d₁, d₂, c], rest) =>
    let key : Numbers := ⟨n, e, d, p, q, d₁, d₂, c⟩
    key.check
    require (rest.isEmpty && behind.isEmpty) .invalidEncoding
    return key
  | _ => throw .invalidEncoding

/-! ### Signing -/

/-- The power of a number modulo another, by squaring. -/
def powMod (m b e : Nat) : Nat :=
  if e = 0 then 1 % m
  else
    let r := powMod m (b * b % m) (e / 2)
    if e % 2 = 1 then b * r % m else r
termination_by e
decreasing_by omega

/-- The signature of a number: its powers modulo both primes, put together. -/
def Numbers.sign (k : Numbers) (message : Nat) : Nat :=
  let m₁ := powMod k.prime1 message k.exponent1
  let m₂ := powMod k.prime2 message k.exponent2
  let h := k.coefficient * (m₁ + (k.prime1 - m₂ % k.prime1)) % k.prime1
  (m₂ + h * k.prime2) % k.modulus

/-- Whether the signature of a number gives it back. -/
def Numbers.signsTruly (k : Numbers) (message : Nat) : Bool :=
  powMod k.modulus (k.sign message) k.publicExponent == message % k.modulus

/-- A number that is used to try a key: all bits below the first byte of the modulus. -/
def Numbers.sample (k : Numbers) : Nat := 1 <<< (8 * (byteLength k.modulus - 1)) - 1

end Scribe.Remote.Rsa
