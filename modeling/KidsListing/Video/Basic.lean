import KidsListing.Document.Basic

/-!
# Videos

One video of a listing.  The service only lists streams, and a video always has
an address; what the provider does not tell keeps its default.
-/

namespace KidsListing

structure Video where
  url : String
  title : String := ""
  thumbnailUrl : String := ""
  uploaderName : String := ""
  uploaderUrl : Option String := none
  uploaderAvatarUrl : String := ""
  uploadedDateText : Option String := some ""
  shortDescription : String := ""
  durationSeconds : Int := -1
  viewCount : Int := -1
  uploadedTimestamp : Int := -1
  uploaderVerified : Bool := false
  isShort : Bool := false
  url_ne_empty : url ≠ ""
  deriving DecidableEq

namespace Video

/-- The one kind of item that is listed. -/
def type (_ : Video) : String := "stream"

def nullable : Option String → Document
  | some value => .text value
  | none => .null

/-- The public form of a video: its fields under their camel-case names. -/
def toDocument (v : Video) : Document :=
  .object [
    ("type", .text v.type),
    ("url", .text v.url),
    ("title", .text v.title),
    ("thumbnailUrl", .text v.thumbnailUrl),
    ("uploaderName", .text v.uploaderName),
    ("uploaderUrl", nullable v.uploaderUrl),
    ("uploaderAvatarUrl", .text v.uploaderAvatarUrl),
    ("uploadedDateText", nullable v.uploadedDateText),
    ("shortDescription", .text v.shortDescription),
    ("durationSeconds", .int v.durationSeconds),
    ("viewCount", .int v.viewCount),
    ("uploadedTimestamp", .int v.uploadedTimestamp),
    ("uploaderVerified", .bool v.uploaderVerified),
    ("isShort", .bool v.isShort)]

end Video

/-- The answer to a search. -/
structure SearchPage where
  items : List Video := []
  nextPageToken : Option String := none
  suggestion : Option String := none
  corrected : Bool := false
  deriving DecidableEq

def SearchPage.toDocument (page : SearchPage) : Document :=
  .object [
    ("items", .list (page.items.map Video.toDocument)),
    ("nextPageToken", Video.nullable page.nextPageToken),
    ("suggestion", Video.nullable page.suggestion),
    ("corrected", .bool page.corrected)]

end KidsListing
