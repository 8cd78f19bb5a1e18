import KidsListing.Number.Binary64
import KidsListing.Text.Blank
import KidsListing.Text.DecimalDigit
import KidsListing.Text.Digit

/-!
# Lengths of time

A length of time in seconds, either whole or in floating point.  The text of
the latter is a decimal numeral in the digits of any script, with an optional
sign, fraction and exponent, or a word for infinity or for not a number; a
single underscore may stand between two digits.
-/

namespace KidsListing

inductive Seconds where
  | whole (value : Int)
  | floating (value : Binary64)
  deriving DecidableEq

namespace Seconds

open KidsListing.Text (isDigit ofDigits decimalDigit? trim withoutUnderscores?)

/-- The ASCII digit of a decimal digit, and any other character as it is. -/
def plainDigit (c : Char) : Char :=
  match decimalDigit? c with
  | some d => Char.ofNat ('0'.toNat + d)
  | none => c

def signed (text : List Char) : Bool × List Char :=
  match text with
  | '-' :: rest => (true, rest)
  | '+' :: rest => (false, rest)
  | _ => (false, text)

def exponent? (text : List Char) : Option Int :=
  match text with
  | [] => some 0
  | e :: rest =>
      let part := signed rest
      if (e = 'e' ∨ e = 'E') ∧ part.2 ≠ [] ∧ part.2.all isDigit then
        let magnitude : Int := ofDigits part.2
        some (if part.1 then -magnitude else magnitude)
      else none

def decimal? (negative : Bool) (text : List Char) : Option Binary64 :=
  let units := text.takeWhile isDigit
  let afterUnits := text.dropWhile isDigit
  let places :=
    match afterUnits with
    | '.' :: rest => (rest.takeWhile isDigit, rest.dropWhile isDigit)
    | _ => ([], afterUnits)
  if units.isEmpty && places.1.isEmpty then none
  else
    (exponent? places.2).map fun power =>
      Binary64.ofDecimal negative (ofDigits (units ++ places.1)) (power - places.1.length)

/-- The floating-point number that a text spells. -/
def number? (text : List Char) : Option Binary64 := do
  let plain ← withoutUnderscores? none ((trim text).map plainDigit)
  let part := signed plain
  let word := String.ofList (part.2.map Char.toLower)
  if word = "inf" ∨ word = "infinity" then some (.infinite part.1)
  else if word = "nan" then some .nan
  else decimal? part.1 part.2

end Seconds

end KidsListing
