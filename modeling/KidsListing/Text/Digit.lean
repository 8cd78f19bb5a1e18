/-!
# Decimal numerals

Numerals in ASCII digits.  `ofDigits` is the positional value of a digit
string, and `natural?` reads one of at most `maxDigits` digits; leading zeros
count towards that limit.
-/

namespace KidsListing.Text

def isDigit (c : Char) : Bool :=
  '0' ≤ c && c ≤ '9'

def digitValue (c : Char) : Nat :=
  c.toNat - '0'.toNat

def ofDigits (digits : List Char) : Nat :=
  digits.foldl (fun value c => 10 * value + digitValue c) 0

/-- The value of a hexadecimal digit in either case. -/
def hexDigit? (c : Char) : Option Nat :=
  if isDigit c then some (digitValue c)
  else if 'a' ≤ c ∧ c ≤ 'f' then some (c.toNat - 'a'.toNat + 10)
  else if 'A' ≤ c ∧ c ≤ 'F' then some (c.toNat - 'A'.toNat + 10)
  else none

/-- No decimal numeral of more digits is read or written. -/
def maxDigits : Nat := 4300

/-- A non-empty string of digits within the limit, and nothing else. -/
def natural? (digits : List Char) : Option Nat :=
  if digits ≠ [] ∧ digits.all isDigit ∧ digits.length ≤ maxDigits then
    some (ofDigits digits)
  else none

/-- The groups between the separators; there is always one group more than
there are separators. -/
def splitOn (separator : Char) : List Char → List (List Char)
  | [] => [[]]
  | c :: rest =>
      if c = separator then [] :: splitOn separator rest
      else match splitOn separator rest with
        | [] => [[c]]
        | group :: groups => (c :: group) :: groups

theorem splitOn_ne_nil (separator : Char) (text : List Char) : splitOn separator text ≠ [] := by
  cases text with
  | nil => simp [splitOn]
  | cons c rest =>
      simp only [splitOn]
      split
      · simp
      · split <;> simp

/-- No group has a separator in it. -/
theorem not_mem_of_mem_splitOn {separator : Char} {text group : List Char}
    (h : group ∈ splitOn separator text) : separator ∉ group := by
  induction text generalizing group with
  | nil => simp_all [splitOn]
  | cons c rest ih =>
      simp only [splitOn] at h
      split at h
      · rcases List.mem_cons.1 h with rfl | h
        · simp
        · exact ih h
      · rename_i hc
        split at h
        · simp_all [Ne.symm hc]
        · rename_i first groups hsplit
          rcases List.mem_cons.1 h with rfl | h
          · have hfirst : separator ∉ first :=
              ih (show first ∈ splitOn separator rest by simp [hsplit])
            simp [hfirst, Ne.symm hc]
          · exact ih (by simp [hsplit, h])

/-- The text without its underscores, each of which must stand between two
digits.  The first argument is the character before the text. -/
def withoutUnderscores? : Option Char → List Char → Option (List Char)
  | _, [] => some []
  | before, c :: rest =>
      if c = '_' then
        if before.any isDigit && rest.head?.any isDigit then withoutUnderscores? (some c) rest
        else none
      else (withoutUnderscores? (some c) rest).map (c :: ·)

end KidsListing.Text
