/-!
# Blank characters

Two classes of blank characters are in use.  `isWhiteSpace` is the Unicode
property `White_Space`; `isBlank` adds the four information separators
U+001C to U+001F.  `trim` cuts blanks off both ends of a text, and a text is
`Trimmed` when neither end is blank.
-/

namespace KidsListing.Text

def isWhiteSpace (c : Char) : Bool :=
  let n := c.toNat
  (0x09 ≤ n && n ≤ 0x0D) || n == 0x20 || n == 0x85 || n == 0xA0 || n == 0x1680 ||
    (0x2000 ≤ n && n ≤ 0x200A) || n == 0x2028 || n == 0x2029 || n == 0x202F ||
    n == 0x205F || n == 0x3000

def isBlank (c : Char) : Bool :=
  isWhiteSpace c || (0x1C ≤ c.toNat && c.toNat ≤ 0x1F)

/-- Cuts the members of a class off both ends. -/
def trimBy {α : Type} (blank : α → Bool) (text : List α) : List α :=
  ((text.dropWhile blank).reverse.dropWhile blank).reverse

def trim (text : List Char) : List Char :=
  trimBy isBlank text

def Trimmed (text : List Char) : Prop :=
  trim text = text

instance (text : List Char) : Decidable (Trimmed text) :=
  inferInstanceAs (Decidable (trim text = text))

/-- The text with the blanks at both ends cut off. -/
def trimmed (text : String) : String :=
  String.ofList (trim text.toList)

end KidsListing.Text
