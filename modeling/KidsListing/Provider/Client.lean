import KidsListing.Document.Reader
import KidsListing.Run
import KidsListing.Text.Utf8

/-!
# Asking the provider

One request per call, and no second try.  A search needs a query of at
most a hundred characters and browsing needs an id; what lacks them is refused
before anything is posted.  An answer counts when its status is from 200 to 299
and its body reads as a document.  Who reads the bodies is left open: a body is what
reading it comes to.
-/

namespace KidsListing

/-- What reading the body of an answer comes to: a document, the complaint that it is none,
or another failure, as when lists stand too deep in each other.  In a document characters
stand in for surrogates that stand alone, as in `RawDocument.shown`. -/
inductive Body where
  | document (whole : Document)
  | notJson
  | broken (defect : Defect)

/-- The body of some octets to a reader that takes them for UTF-8 and makes replacements for
what is ill-formed. -/
def Body.octets (bytes : List UInt8) : Body :=
  match Document.read (Text.Utf8.decodeReplacing bytes) with
  | .ok whole => .document whole
  | .error _ => .notJson

/-- What comes back from a post.  A broken post fails in a way that is not the
transport's. -/
inductive Reply where
  | answered (status : Int) (body : Body)
  | unreachable (reason : String)
  | broken (defect : Defect)

/-- The provider, which answers each inquiry in one way. -/
abbrev Provider := Inquiry → Reply

def maxQueryLength : Nat := 100

namespace Reply

def document (reply : Reply) : Except Fault Document :=
  match reply with
  | .broken defect => .error (.defect defect)
  | .unreachable reason => .error (.provider (.unreachable reason))
  | .answered status body =>
      if 200 ≤ status ∧ status < 300 then
        match body with
        | .document whole => .ok whole
        | .notJson => .error (.provider (.notJson status))
        | .broken defect => .error (.defect defect)
      else .error (.provider (.refused status))

end Reply

namespace Client

/-- Posts an inquiry and takes the document of the answer. -/
def ask (settings : Settings) (provider : Provider) (inquiry : Inquiry) : Run Document where
  outcome := (provider inquiry).document
  events := [
    .logged (.posting (inquiry.url settings)),
    .posted (inquiry.post settings)]

def search (settings : Settings) (provider : Provider) (query : Option String) : Run Document :=
  let query := query.getD ""
  if query = "" then .fail (.request (.missing "query"))
  else if maxQueryLength < query.length then .fail (.request .queryTooLong)
  else ask settings provider (.search query)

def browse (settings : Settings) (provider : Provider) (id : Option String) : Run Document :=
  let id := id.getD ""
  if id = "" then .fail (.request (.missing "browseId"))
  else ask settings provider (.browse id)

end Client

end KidsListing
