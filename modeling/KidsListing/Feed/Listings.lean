import KidsListing.Feed.Aggregation
import KidsListing.Provider.Client
import KidsListing.Video.Fragment
import KidsListing.Video.Scan

/-!
# Listings

The listings of the service: the videos that a search finds, those of the home
page, those of one channel, and those collected from a list of curated
channels.  A channel that fails costs the curated listing that channel alone.
-/

namespace KidsListing

namespace Aggregation

variable {α : Type}

/-- The events of a pass: those of each call, then the warning of a failed one. -/
def passEvents (own : String → List Event) (calls : List (Call α)) : List Event :=
  calls.flatMap fun call =>
    own call.source ++
      (call.fault?.map fun fault => Event.logged (.sourceSkipped call.source fault)).toList

/-- The events of an aggregation, of which `own` are those of fetching a source.
The fallback pass is announced before its first call. -/
def events (policy : Policy) (own : String → List Event) (a : Aggregation α) : List Event :=
  passEvents own a.primary ++
    match a.fallback with
    | none => []
    | some (remaining, calls) =>
        .logged (.primaryPassShort (contributions a.primary).length policy.fallbackFloor
          remaining) :: passEvents own calls

end Aggregation

namespace Listing

/-- The page that is browsed for the home listing. -/
def homePage : String := "FEkids_home"

def fragments (payloads : List Document) : List Fragment :=
  payloads.map fun payload => { content := payload }

def searchVideos (settings : Settings) (provider : Provider) (query : Option String) :
    Run SearchPage := do
  let root ← Client.search settings provider query
  let items ← Fragment.decodeAll (fragments (Scan.sectionPayloads Scan.videoMarker root))
  return { items }

/-- The videos anywhere on a page. -/
def pageVideos (settings : Settings) (provider : Provider) (id : String) : Run (List Video) := do
  let root ← Client.browse settings provider (some id)
  Fragment.decodeAll (fragments (Scan.payloads Scan.videoMarker root))

def homeVideos (settings : Settings) (provider : Provider) : Run (List Video) :=
  pageVideos settings provider homePage

def channelVideos (settings : Settings) (provider : Provider) (channel : String) :
    Run (List Video) :=
  pageVideos settings provider channel

def fetchChannel (settings : Settings) (provider : Provider) (channel : String) :
    Fetched Video :=
  match (channelVideos settings provider channel).outcome with
  | .ok videos => .ready videos
  | .error fault => .raised fault

def curatedVideos (settings : Settings) (provider : Provider) (channels : List String)
    (policy : Policy) : Run (List Video) :=
  let aggregation := Aggregation.run policy (fetchChannel settings provider) channels
  { outcome := .ok aggregation.items
    events := aggregation.events policy fun channel =>
      (channelVideos settings provider channel).events }

end Listing

end KidsListing
