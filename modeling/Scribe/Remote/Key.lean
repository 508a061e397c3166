import Scribe.Remote.Armour
import Scribe.Remote.Block
import Scribe.Remote.Rsa

/-!
# Private keys

A private key comes in armour. A key of its own format holds its numbers directly; one in the
general format names its kind by the first known identifier and holds its numbers in the first
string of bits or bytes. Only RSA keys can sign.
-/

namespace Scribe.Remote.PrivateKey

/-- The identifiers of the kinds of keys, and whether a kind is RSA. -/
def kinds : List (List Nat × Bool) :=
  [([1, 2, 840, 113549, 1, 1, 1], true), ([1, 2, 840, 10045, 2, 1], false),
   ([1, 3, 101, 112], false)]

/-- Why a key cannot sign: it is no RSA key, it holds no numbers, its numbers are rejected, or its
signatures are wrong. -/
inductive Fault where
  | format
  | empty
  | rejected (reason : Rsa.Rejection)
  | failed
  deriving DecidableEq, Repr

/-- The wording of a fault. -/
def Fault.message : Fault → String
  | .format => "invalid service account private key: InvalidKeyFormat"
  | .empty => "invalid service account private key: InvalidEcdsaKey"
  | .rejected reason => "failed to sign token request: RSA key invalid: " ++ reason.name
  | .failed => "failed to sign token request: RsaFailedSigning"

/-- The numbers in a key of the general format. -/
def ofBlocks (blocks : List Block) : Except Fault (List UInt8) :=
  let leaves := Block.leavesOfAll blocks
  let kind := leaves.findSome? fun
    | .identifier path => kinds.lookup path
    | _ => none
  let value := leaves.findSome? fun
    | .bytes v => some v
    | _ => none
  if kind = some true then value.elim (.error .empty) .ok else .error .format

/-- The numbers of the RSA key in some armour. -/
def numbers (a : Armour) : Except Fault (List UInt8) :=
  match Block.row? a.data with
  | none => .error .format
  | some blocks =>
    if ["RSA PRIVATE KEY", "RSA PUBLIC KEY"].contains a.label then .ok a.data
    else if ["PRIVATE KEY", "PUBLIC KEY", "CERTIFICATE"].contains a.label then ofBlocks blocks
    else .error .format

/-- Check that a text is a key that can sign. -/
def check (text : String) : Except Fault Unit := do
  let armour ← (Armour.ofText? text).elim (.error .format) .ok
  let key ← (Rsa.ofBytes (← numbers armour)).mapError .rejected
  if key.signsTruly key.sample then return () else throw .failed

end Scribe.Remote.PrivateKey
