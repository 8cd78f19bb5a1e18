import KidsListing.Text.Blank

/-!
# Code points

An escape may put one half of a pair of surrogates into a text while the other half is
missing.  Such a text is no sequence of characters but one of code points: characters, and
surrogates that stand alone.  It is shown as a text of characters when characters stand in
for its surrogates.
-/

namespace KidsListing

/-- A character, or a surrogate by its distance from the first one, U+D800. -/
inductive CodePoint where
  | character (c : Char)
  | surrogate (offset : Fin 0x800)
  deriving DecidableEq, Repr

/-- A text in which surrogates may stand alone. -/
abbrev RawText := List CodePoint

namespace CodePoint

/-- The code point of a unit of sixteen bits that stands alone. -/
def ofUnit (unit : Nat) : CodePoint :=
  if h : 0xD800 ≤ unit ∧ unit < 0xE000 then .surrogate ⟨unit - 0xD800, by omega⟩
  else .character (Char.ofNat unit)

def isBlank : CodePoint → Bool
  | .character c => Text.isBlank c
  | .surrogate _ => false

/-- The character itself; a surrogate has another character to stand in for it. -/
def shown (standIn : Fin 0x800 → Char) : CodePoint → Char
  | .character c => c
  | .surrogate offset => standIn offset

/-- The one character that is put in the place of what is no character. -/
def replacement : Fin 0x800 → Char :=
  fun _ => '\uFFFD'

end CodePoint

namespace RawText

def ofString (text : String) : RawText :=
  text.toList.map .character

/-- The text with the blanks at both ends cut off. -/
def trimmed (text : RawText) : RawText :=
  Text.trimBy CodePoint.isBlank text

def shown (standIn : Fin 0x800 → Char) (text : RawText) : String :=
  String.ofList (text.map (CodePoint.shown standIn))

/-- Where only characters can be had, replacements are made. -/
instance : Coe (List RawText) (List String) :=
  ⟨List.map (shown CodePoint.replacement)⟩

end RawText

end KidsListing
