/-!
# Binary floating point

The values of the 64-bit binary format, held exactly: a finite value is
`± significand · 2 ^ exponent` in its canonical form, so equal finite values
have equal fields.  `ofRatio` rounds a non-negative quotient to the nearest
value, a tie going to the even significand, and a quotient beyond the range to
infinity.
-/

namespace KidsListing

/-- The significands and exponents of the format: 53 bits, exponents from -1074
to 971, and the top bit set unless the exponent is the least one. -/
def CanonicalBinary64 (significand : Nat) (exponent : Int) : Prop :=
  significand < Nat.pow 2 53 ∧ -1074 ≤ exponent ∧ exponent ≤ 971 ∧
    (exponent = -1074 ∨ Nat.pow 2 52 ≤ significand)

instance (significand : Nat) (exponent : Int) :
    Decidable (CanonicalBinary64 significand exponent) := by
  unfold CanonicalBinary64
  infer_instance

inductive Binary64 where
  | nan
  | infinite (negative : Bool)
  | finite (negative : Bool) (significand : Nat) (exponent : Int)
      (canonical : CanonicalBinary64 significand exponent)
  deriving DecidableEq

namespace Binary64

def zero (negative : Bool) : Binary64 :=
  .finite negative 0 (-1074) (by decide)

instance : Inhabited Binary64 := ⟨zero false⟩

/-- The value when it is in range, and infinity when it is not. -/
def ofCanonical (negative : Bool) (significand : Nat) (exponent : Int) : Binary64 :=
  if canonical : CanonicalBinary64 significand exponent then
    .finite negative significand exponent canonical
  else .infinite negative

/-- The quotient `numerator / (denominator · 2 ^ exponent)` as a fraction of
naturals. -/
def scale (numerator denominator : Nat) (exponent : Int) : Nat × Nat :=
  if 0 ≤ exponent then (numerator, denominator * Nat.pow 2 exponent.toNat)
  else (numerator * Nat.pow 2 (-exponent).toNat, denominator)

/-- The exponent at which the quotient has 53 bits before the point, or the
least exponent when it has fewer there. -/
def exponentFor (numerator denominator : Nat) : Int :=
  let guess : Int := (numerator.log2 : Int) - (denominator.log2 : Int) - 53
  let scaled := scale numerator denominator guess
  max (-1074) (if scaled.1 / scaled.2 < Nat.pow 2 53 then guess else guess + 1)

/-- The nearest natural to a quotient, a tie going to the even one. -/
def nearest (numerator denominator : Nat) : Nat :=
  let floor := numerator / denominator
  let twice := 2 * (numerator % denominator)
  if denominator < twice ∨ (twice = denominator ∧ floor % 2 = 1) then floor + 1 else floor

def ofRatio (negative : Bool) (numerator denominator : Nat) : Binary64 :=
  if numerator = 0 then zero negative
  else
    let exponent := exponentFor numerator denominator
    let scaled := scale numerator denominator exponent
    let significand := nearest scaled.1 scaled.2
    if significand = Nat.pow 2 53 then ofCanonical negative (Nat.pow 2 52) (exponent + 1)
    else ofCanonical negative significand exponent

/-- The nearest value to `± digits · 10 ^ exponent`.  A power of ten far beyond
the range on either side decides the result by itself. -/
def ofDecimal (negative : Bool) (digits : Nat) (exponent : Int) : Binary64 :=
  if digits = 0 then zero negative
  else if 400 < exponent then .infinite negative
  else if (digits.log2 : Int) + 1 + 3 * exponent < -1075 ∧ exponent < 0 then zero negative
  else if 0 ≤ exponent then ofRatio negative (digits * Nat.pow 10 exponent.toNat) 1
  else ofRatio negative digits (Nat.pow 10 (-exponent).toNat)

def isZero : Binary64 → Bool
  | .finite _ significand _ _ => significand == 0
  | _ => false

/-- Greater than zero; not a number is not. -/
def isPositive : Binary64 → Bool
  | .nan => false
  | .infinite negative => !negative
  | .finite negative significand _ _ => !negative && significand != 0

def isFinite : Binary64 → Bool
  | .finite .. => true
  | _ => false

/-- The integer that a finite value is equal to, if there is one. -/
def toInt? : Binary64 → Option Int
  | .finite negative significand exponent _ =>
      let magnitude? :=
        if 0 ≤ exponent then some (significand * Nat.pow 2 exponent.toNat)
        else
          let unit := Nat.pow 2 (-exponent).toNat
          if significand % unit = 0 then some (significand / unit) else none
      magnitude?.map fun magnitude => if negative then -(magnitude : Int) else magnitude
  | _ => none

end Binary64

end KidsListing
