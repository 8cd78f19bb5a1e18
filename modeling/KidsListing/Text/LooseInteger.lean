import KidsListing.Text.Blank
import KidsListing.Text.Digit

/-!
# Loosely written integers

An integer as people write it.  A text is first read as a plain integer, and
only then with what people add to one left out: white space around it, a plus
sign, leading zeros, single underscores inside it and a fraction of zeros.  A
plain integer of more than `maxDigits` digits is too long, whatever comes after
its digits; a text that gets that long by what is left out is malformed.
-/

namespace KidsListing.Text

inductive IntegerProblem where
  | malformed
  | tooLong
  deriving DecidableEq, Repr

/-- An integer in its only plain form: a minus sign if it is negative, and
digits of which the first is no zero unless it is the only one. -/
def plainInteger (text : List Char) : Except IntegerProblem Int :=
  let signed :=
    match text with
    | '-' :: rest => (true, rest)
    | _ => (false, text)
  let digits := signed.2.takeWhile isDigit
  if digits = [] ∨ (digits.head? = some '0' ∧ digits ≠ ['0']) then .error .malformed
  else if maxDigits < digits.length then .error .tooLong
  else if digits ≠ signed.2 then .error .malformed
  else
    let magnitude : Int := ofDigits digits
    .ok (if signed.1 then -magnitude else magnitude)

namespace LooseInteger

/-- The text without a plus sign in front of it.  The sign stays before a minus
sign, where it is out of place. -/
def withoutPlus : List Char → List Char
  | '+' :: '-' :: rest => '+' :: '-' :: rest
  | '+' :: rest => rest
  | text => text

/-- What follows the leading zeros and the underscores among them.  Before a
point and at the end, the last character passed over stays. -/
def afterZeros (last : Char) : List Char → List Char
  | [] => [last]
  | c :: rest =>
      if c = '0' ∨ c = '_' then afterZeros c rest
      else if c = '.' then last :: c :: rest
      else c :: rest

def withoutLeadingZeros : List Char → List Char
  | '0' :: rest => afterZeros '0' rest
  | text => text

/-- The part before the point when zeros, and nothing else, come after it. -/
def withoutZeroFraction (text : List Char) : List Char :=
  let zeros := (text.dropWhile (· != '.')).drop 1
  if zeros ≠ [] ∧ zeros.all (· == '0') then text.takeWhile (· != '.') else text

def hasDoubleUnderscore : List Char → Bool
  | [] => false
  | c :: rest => (c == '_' && rest.head? == some '_') || hasDoubleUnderscore rest

/-- The text without its underscores; they stay when one is at an end or two
are side by side. -/
def withoutInnerUnderscores (text : List Char) : List Char :=
  if text.head? = some '_' ∨ text.getLast? = some '_' ∨ hasDoubleUnderscore text then text
  else text.filter (· != '_')

def withoutAdditions (text : List Char) : List Char :=
  withoutInnerUnderscores (withoutZeroFraction (withoutLeadingZeros text))

/-- The text without what people add to an integer.  Leading zeros may stand on
either side of a minus sign, but not on both. -/
def bare (text : List Char) : List Char :=
  match withoutPlus (trimBy isWhiteSpace text) with
  | '-' :: rest => '-' :: withoutAdditions rest
  | rest => withoutAdditions rest

end LooseInteger

def looseInteger (text : List Char) : Except IntegerProblem Int :=
  match plainInteger text with
  | .ok n => .ok n
  | .error .tooLong => .error .tooLong
  | .error .malformed =>
      match plainInteger (LooseInteger.bare text) with
      | .ok n => .ok n
      | .error _ => .error .malformed

end KidsListing.Text
