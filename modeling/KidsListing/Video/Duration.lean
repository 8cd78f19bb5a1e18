import KidsListing.Text.Digit

/-!
# Durations

A duration is written `M:SS` or `H:MM:SS`: two or three numerals with colons
between them.  Each place counts sixty of the next and no place is checked
against its range.
-/

namespace KidsListing.Duration

open KidsListing.Text (natural? splitOn)

/-- The seconds that numerals of falling weight stand for. -/
def seconds (places : List Nat) : Nat :=
  places.foldl (fun total place => total * 60 + place) 0

def parse? (text : List Char) : Option Nat :=
  let groups := splitOn ':' text
  if groups.length = 2 ∨ groups.length = 3 then (groups.mapM natural?).map seconds
  else none

end KidsListing.Duration
