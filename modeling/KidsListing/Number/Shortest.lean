import KidsListing.Number.Binary64

/-!
# Shortest decimals

The text of a binary floating-point value has the fewest digits that read back
as the value, and of several such the nearest to it.  The values that read back
form an interval around the exact value; the coarsest decimal grid with a point
in that interval gives the digits, and if any point of a grid lies inside then
so does one of the two neighbours of the value on that grid.
-/

namespace KidsListing.Binary64

/-- The reals that round to `significand · 2 ^ exponent`, with the value
itself, in units of a quarter of its last place. -/
structure Interval where
  low : Nat
  value : Nat
  high : Nat
  closed : Bool

def interval (significand : Nat) (exponent : Int) : Interval where
  low := 4 * significand - (if significand = Nat.pow 2 52 ∧ exponent ≠ -1074 then 1 else 2)
  value := 4 * significand
  high := 4 * significand + 2
  closed := significand % 2 = 0

/-- A decimal `digits · 10 ^ exponent`. -/
structure Decimal where
  digits : Nat
  exponent : Int
  deriving DecidableEq, Repr

/-- The point of the grid of step `10 ^ power` that stands for the value: one of
its neighbours inside the interval, the nearer if both are, the even one of two
equally near. -/
def gridPoint? (significand : Nat) (exponent power : Int) : Option Decimal :=
  let range := interval significand exponent
  let quarter := exponent - 2
  let unit := Nat.pow 2 quarter.toNat * Nat.pow 10 (-power).toNat
  let step := Nat.pow 2 (-quarter).toNat * Nat.pow 10 power.toNat
  let value := range.value * unit
  let inside (point : Nat) : Bool :=
    if range.closed then range.low * unit ≤ point * step && point * step ≤ range.high * unit
    else range.low * unit < point * step && point * step < range.high * unit
  let below := value / step
  let above := below + 1
  let nearer :=
    let twice := 2 * (value % step)
    if step < twice ∨ (twice = step ∧ below % 2 = 1) then above else below
  let chosen? :=
    match inside below, inside above with
    | true, true => some nearer
    | true, false => some below
    | false, true => some above
    | false, false => none
  chosen?.map fun digits => ⟨digits, power⟩

/-- Every grid that can matter, coarsest first: from `10 ^ 308` to `10 ^ -324`. -/
def grids : List Int :=
  (List.range 633).map fun (i : Nat) => 308 - (i : Int)

def shortest (significand : Nat) (exponent : Int) : Decimal :=
  ((grids.findSome? fun power => gridPoint? significand exponent power)).getD ⟨0, 0⟩

/-- How decimals are laid out: positional notation from one decimal exponent up
to below another, and scientific notation with a least width of the exponent
elsewhere. -/
structure Layout where
  leastPositional : Int
  firstScientific : Int
  exponentWidth : Nat

/-- Positional notation from `0.0001` up to below `10 ^ 16`, and exponents of
two digits at least. -/
def layout : Layout := ⟨-4, 16, 2⟩

/-- A digit string with a point after the given number of digits; there is at
least one digit on each side of the point. -/
def positional (digits : List Char) (point : Int) : List Char :=
  if point ≤ 0 then ['0', '.'] ++ List.replicate (-point).toNat '0' ++ digits
  else
    let whole := digits.take point.toNat
    let fraction := digits.drop point.toNat
    whole ++ List.replicate (point.toNat - whole.length) '0' ++ ['.'] ++
      (if fraction.isEmpty then ['0'] else fraction)

def scientific (style : Layout) (digits : List Char) (exponent : Int) : List Char :=
  let mantissa :=
    match digits with
    | [] => []
    | [d] => [d]
    | d :: rest => d :: '.' :: rest
  let magnitude := Nat.toDigits 10 exponent.natAbs
  mantissa ++ ['e', if exponent < 0 then '-' else '+'] ++
    List.replicate (style.exponentWidth - magnitude.length) '0' ++ magnitude

def decimalText (style : Layout) (d : Decimal) : List Char :=
  let digits := Nat.toDigits 10 d.digits
  let leading : Int := d.exponent + digits.length - 1
  if style.leastPositional ≤ leading ∧ leading < style.firstScientific then
    positional digits (leading + 1)
  else scientific style digits leading

def text : Binary64 → String
  | .nan => "nan"
  | .infinite negative => if negative then "-inf" else "inf"
  | .finite negative significand exponent _ =>
      let magnitude :=
        if significand = 0 then ['0', '.', '0']
        else decimalText layout (shortest significand exponent)
      String.ofList (if negative then '-' :: magnitude else magnitude)

end KidsListing.Binary64
