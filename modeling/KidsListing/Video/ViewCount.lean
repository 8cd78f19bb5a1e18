import KidsListing.Fault
import KidsListing.Text.Digit

/-!
# View counts

A view count is read from a text such as `1.2M views` or `5,234 views`.  Only
the ASCII digits and points of the text count towards the number.  A magnitude
letter anywhere in the text makes the point a decimal point and the count the
whole part of the number times the magnitude; without one every point is a
thousands separator.
-/

namespace KidsListing.ViewCount

open KidsListing.Text (isDigit ofDigits natural?)

inductive Magnitude where
  | thousand
  | million
  | billion
  deriving DecidableEq, Repr

/-- The power of ten that a magnitude stands for. -/
def Magnitude.power : Magnitude → Nat
  | .thousand => 3
  | .million => 6
  | .billion => 9

/-- The characters that a magnitude is written with: a letter in either case,
and for the thousand the Kelvin sign too, whose lower case is the letter k. -/
def Magnitude.letters : Magnitude → List Char
  | .thousand => ['k', 'K', '\u212A']
  | .million => ['m', 'M']
  | .billion => ['b', 'B']

/-- The magnitudes in the order in which they are looked for. -/
def Magnitude.all : List Magnitude :=
  [.thousand, .million, .billion]

def magnitude? (text : List Char) : Option Magnitude :=
  Magnitude.all.find? fun m => text.any fun c => m.letters.contains c

def isNumeric (c : Char) : Bool :=
  isDigit c || c == '.'

/-- Counts that would need more digits than this are refused. -/
def maxScaledDigits : Nat := 1000000

/-- The number with its decimal point moved to the right and cut off after the
whole part.  There must be a digit and at most one point. -/
def scaled? (power : Nat) (numeric : List Char) : Except Fault (Option Nat) :=
  let units := numeric.takeWhile (· != '.')
  let places := (numeric.dropWhile (· != '.')).drop 1
  if places.contains '.' || (units.isEmpty && places.isEmpty) then .ok none
  else
    let digits := units ++ (places ++ List.replicate power '0').take power
    if maxScaledDigits < (digits.dropWhile (· == '0')).length then
      .error (.defect .countTooLarge)
    else .ok (some (ofDigits digits))

def parse (text : List Char) : Except Fault (Option Nat) :=
  let numeric := text.filter isNumeric
  match magnitude? text with
  | some m => scaled? m.power numeric
  | none => .ok (natural? (numeric.filter isDigit))

end KidsListing.ViewCount
