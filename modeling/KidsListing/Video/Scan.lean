import KidsListing.Document.Path

/-!
# Scanning documents for videos

The provider marks the description of a video by a key of its own: a
payload is an object that stands under that marker.  The full scan finds every
payload anywhere in a document, in document order and also inside other
payloads.  The section scan finds those of a search result, which stand in the
sections of one list.
-/

namespace KidsListing.Scan

/-- The marker of videos. -/
def videoMarker : String := "compactVideoRenderer"

/-- The payload that an object hosts, if any. -/
def hosted (marker : String) (entries : List (String × Document)) : List Document :=
  match Document.lookup marker entries with
  | some payload => if payload.isObject then [payload] else []
  | none => []

mutual

/-- The payloads of a document: the one that it hosts before those inside. -/
def payloads (marker : String) : Document → List Document
  | .list elements => elementPayloads marker elements
  | .object entries => hosted marker entries ++ entryPayloads marker entries
  | _ => []

def elementPayloads (marker : String) : List Document → List Document
  | [] => []
  | x :: rest => payloads marker x ++ elementPayloads marker rest

def entryPayloads (marker : String) : List (String × Document) → List Document
  | [] => []
  | (_, x) :: rest => payloads marker x ++ entryPayloads marker rest

end

/-- The elements of a list; anything else has none. -/
def elements : Document → List Document
  | .list elements => elements
  | _ => []

def sections (root : Document) : List Document :=
  elements (root.walk ["contents", "sectionListRenderer", "contents"])

def sectionEntries (part : Document) : List Document :=
  elements (part.walk ["itemSectionRenderer", "contents"])

def entryPayload (marker : String) (entry : Document) : List Document :=
  let payload := entry.step marker
  if payload.isObject then [payload] else []

def sectionPayloads (marker : String) (root : Document) : List Document :=
  (sections root).flatMap fun part => (sectionEntries part).flatMap (entryPayload marker)

end KidsListing.Scan
