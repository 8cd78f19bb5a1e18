import KidsListing.Document.Basic
import KidsListing.Text.CodePoint

/-!
# Documents as they are read

A raw document differs from a document in its texts and keys, which are code points: a
surrogate may stand alone in them.  It shows a document as soon as characters stand in for
the surrogates.  When each has a character of its own that is nowhere else in the document,
no two texts or keys show the same.
-/

namespace KidsListing

inductive RawDocument where
  | null
  | bool (value : Bool)
  | int (value : Int)
  | float (value : Binary64)
  | text (value : RawText)
  | list (elements : List RawDocument)
  | object (entries : List (RawText × RawDocument))
  deriving Inhabited

namespace RawDocument

/-- Null, false, zero and whatever has nothing in it. -/
def isBlank : RawDocument → Bool
  | .null => true
  | .bool value => !value
  | .int value => value == 0
  | .float value => value.isZero
  | .text value => value.isEmpty
  | .list elements => elements.isEmpty
  | .object entries => entries.isEmpty

section Shown

variable (standIn : Fin 0x800 → Char)

mutual

/-- The document that is shown.  Of entries that show one key the last value wins. -/
def shown : RawDocument → Document
  | .null => .null
  | .bool value => .bool value
  | .int value => .int value
  | .float value => .float value
  | .text value => .text (value.shown standIn)
  | .list elements => .list (shownElements elements)
  | .object entries => .object (shownEntries [] entries)

def shownElements : List RawDocument → List Document
  | [] => []
  | x :: rest => shown x :: shownElements rest

def shownEntries (read : List (String × Document)) :
    List (RawText × RawDocument) → List (String × Document)
  | [] => read
  | (key, x) :: rest =>
      shownEntries (Document.insert (key.shown standIn) (shown x) read) rest

end

end Shown

end RawDocument

end KidsListing
