import KidsListing.Document.Path
import KidsListing.Fault
import KidsListing.Number.Shortest
import KidsListing.Text.Digit

/-!
# Plain text

The plain text of a document is a text as it is and a number in decimal; every
other document has the empty text.  An integer of more than `Text.maxDigits`
digits cannot be written.
-/

namespace KidsListing.Document

open KidsListing.Text (maxDigits)

def Writable (n : Int) : Prop :=
  n.natAbs < Nat.pow 10 maxDigits

instance (n : Int) : Decidable (Writable n) :=
  inferInstanceAs (Decidable (_ < _))

def plainText : Document → Except Fault String
  | .text value => .ok value
  | .int value =>
      if Writable value then .ok (toString value) else .error (.defect .numeralTooLong)
  | .float value => .ok value.text
  | _ => .ok ""

/-- The text of a label: of its first run if it has runs, and else its simple
text. -/
def label (node : Document) : Except Fault String :=
  match node.step "runs" with
  | .list (run :: _) => (run.step "text").plainText
  | _ => (node.step "simpleText").plainText

/-- The address of the sharpest image: images come in rising resolution. -/
def sharpestImage (node : Document) : Except Fault String :=
  (node.walk ["thumbnails", .index (-1), "url"]).plainText

def firstImage (node : Document) : Except Fault String :=
  (node.walk ["thumbnails", .index 0, "url"]).plainText

/-- The channel that the first run of a label links to. -/
def linkedChannel (node : Document) : Except Fault (Option String) :=
  (node.walk ["runs", .index 0, "navigationEndpoint", "browseEndpoint", "browseId"]).plainText.map
    fun id => if id = "" then none else some id

end KidsListing.Document
