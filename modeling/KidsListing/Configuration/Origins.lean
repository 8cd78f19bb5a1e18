import KidsListing.Text.Blank
import KidsListing.Text.Digit

/-!
# Allowed origins

The origins whose pages may call the service, and whether they may send
credentials.  Origins are written with commas between them and blanks are
ignored; a single asterisk stands for every origin, without credentials.
-/

namespace KidsListing

structure Origins where
  allowed : List String
  credentials : Bool
  deriving DecidableEq, Repr

namespace Origins

def default : Origins := ⟨["http://localhost:5173"], true⟩

def any : Origins := ⟨["*"], false⟩

/-- The trimmed entries of a text that are not blank. -/
def entries (text : List Char) : List (List Char) :=
  ((Text.splitOn ',' text).map Text.trim).filter fun entry => entry ≠ []

def ofText (text : String) : Origins :=
  if text = "" then default
  else if text = "*" then any
  else match entries text.toList with
    | [] => default
    | listed => ⟨listed.map String.ofList, true⟩

end Origins

end KidsListing
