/-!
# UTF-8

A decoder that takes one octet at a time.  An octet that cannot continue the
sequence under way ends that sequence as ill-formed and is then looked at
afresh, so each maximal ill-formed part is reported exactly once.  `decode?`
refuses ill-formed input and `decodeReplacing` writes U+FFFD for each part.
-/

namespace KidsListing.Text.Utf8

/-- A sequence under way: the octets still owed, the range of the next one, and
the bits read so far. -/
structure Pending where
  owed : Nat
  low : UInt8
  high : UInt8
  bits : Nat
  deriving DecidableEq, Repr

/-- What the first octet of a sequence announces. -/
inductive Lead where
  | single (c : Char)
  | sequence (pending : Pending)
  | illFormed

def lead (b : UInt8) : Lead :=
  let n := b.toNat
  if n < 0x80 then .single (Char.ofNat n)
  else if n < 0xC2 then .illFormed
  else if n < 0xE0 then .sequence ⟨1, 0x80, 0xBF, n - 0xC0⟩
  else if n = 0xE0 then .sequence ⟨2, 0xA0, 0xBF, 0⟩
  else if n = 0xED then .sequence ⟨2, 0x80, 0x9F, 0xD⟩
  else if n < 0xF0 then .sequence ⟨2, 0x80, 0xBF, n - 0xE0⟩
  else if n = 0xF0 then .sequence ⟨3, 0x90, 0xBF, 0⟩
  else if n < 0xF4 then .sequence ⟨3, 0x80, 0xBF, n - 0xF0⟩
  else if n = 0xF4 then .sequence ⟨3, 0x80, 0x8F, 4⟩
  else .illFormed

/-- The decoded characters, last first; an ill-formed part is `none`. -/
structure Decoder where
  pending : Option Pending := none
  decoded : List (Option Char) := []

def Decoder.restart (d : Decoder) (b : UInt8) : Decoder :=
  match lead b with
  | .single c => ⟨none, some c :: d.decoded⟩
  | .sequence p => ⟨some p, d.decoded⟩
  | .illFormed => ⟨none, none :: d.decoded⟩

def Decoder.push (d : Decoder) (b : UInt8) : Decoder :=
  match d.pending with
  | none => d.restart b
  | some p =>
      if p.low ≤ b ∧ b ≤ p.high then
        let bits := 64 * p.bits + b.toNat % 64
        if p.owed = 1 then ⟨none, some (Char.ofNat bits) :: d.decoded⟩
        else ⟨some ⟨p.owed - 1, 0x80, 0xBF, bits⟩, d.decoded⟩
      else Decoder.restart ⟨none, none :: d.decoded⟩ b

def Decoder.finish (d : Decoder) : List (Option Char) :=
  match d.pending with
  | none => d.decoded.reverse
  | some _ => (none :: d.decoded).reverse

def decode (octets : List UInt8) : List (Option Char) :=
  (octets.foldl Decoder.push {}).finish

/-- The text, or nothing when some part is ill-formed. -/
def decode? (octets : List UInt8) : Option (List Char) :=
  let decoded := decode octets
  if decoded.all Option.isSome then some (decoded.filterMap id) else none

/-- The text with U+FFFD in place of each ill-formed part. -/
def decodeReplacing (octets : List UInt8) : List Char :=
  (decode octets).map fun c => c.getD '\uFFFD'

def encode (text : String) : List UInt8 :=
  text.toUTF8.toList

end KidsListing.Text.Utf8
