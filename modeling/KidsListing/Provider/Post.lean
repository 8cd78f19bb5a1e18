import KidsListing.Configuration.Settings
import KidsListing.Document.Basic

/-!
# Posts to the provider

The provider is asked by posting a document to one of two addresses:
one searches for a query and the other browses a page by its id.  A post tells
the version of the client it comes from twice, in its body and in a header.
-/

namespace KidsListing

/-- What the provider is asked for. -/
inductive Inquiry where
  | search (query : String)
  | browse (id : String)
  deriving DecidableEq, Repr

structure Post where
  inquiry : Inquiry
  url : String
  body : Document
  headers : List (String × String)
  timeout : Seconds

namespace Inquiry

def url (settings : Settings) : Inquiry → String
  | .search _ => settings.searchUrl
  | .browse _ => settings.browseUrl

def clientVersion (settings : Settings) : Inquiry → String
  | .search _ => settings.searchClientVersion
  | .browse _ => settings.browseClientVersion

/-- The content that a search may find. -/
def searchContext : List (String × Document) := [
  ("hl", .text "en"),
  ("kidsAppInfo", .object [
    ("contentSettings", .object [
      ("corpusPreference", .text "KIDS_CORPUS_PREFERENCE_TWEEN"),
      ("kidsNoSearchMode", .text "YT_KIDS_NO_SEARCH_MODE_OFF")])])]

def client (version : String) : List (String × Document) := [
  ("clientName", .text "WEB_KIDS"),
  ("clientVersion", .text version)]

def body (version : String) : Inquiry → Document
  | .search query => .object [
      ("context", .object [("client", .object (client version ++ searchContext))]),
      ("query", .text query)]
  | .browse id => .object [
      ("context", .object [("client", .object (client version))]),
      ("browseId", .text id)]

def headers (version : String) : List (String × String) := [
  ("Content-Type", "application/json"),
  ("User-Agent", "Mozilla/5.0 (Macintosh; Intel Mac OS X 10_15_7) AppleWebKit/537.36 " ++
    "(KHTML, like Gecko) Chrome/141.0.0.0 Safari/537.36"),
  ("x-youtube-client-name", "76"),
  ("x-youtube-client-version", version),
  ("origin", "https://www.youtubekids.com")]

def post (settings : Settings) (inquiry : Inquiry) : Post :=
  let version := inquiry.clientVersion settings
  { inquiry
    url := inquiry.url settings
    body := inquiry.body version
    headers := headers version
    timeout := settings.requestTimeout }

end Inquiry

end KidsListing
