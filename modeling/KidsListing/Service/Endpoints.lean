import KidsListing.Feed.Channels
import KidsListing.Feed.Listings

/-!
# Endpoints

What the service answers to each kind of request, over the listings that it is
built on.  A search hands its query on, whatever filter comes with it.  The
video endpoints need a region but make nothing of it; the home listing gives
way to the curated one when it is empty or the provider fails.
-/

namespace KidsListing

/-- The listings that the endpoints are built on. -/
structure Catalogue where
  search : Option String → Run SearchPage
  home : Run (List Video)
  curated : List String → Run (List Video)

/-- The listings of the provider. -/
def Catalogue.ofProvider (settings : Settings) (provider : Provider) : Catalogue where
  search := Listing.searchVideos settings provider
  home := Listing.homeVideos settings provider
  curated channels := Listing.curatedVideos settings provider channels {}

namespace Endpoint

def health : Document :=
  .object [("ok", .bool true)]

def search (catalogue : Catalogue) (query _filter : Option String) : Run SearchPage :=
  catalogue.search (some (query.getD ""))

def requireRegion : Option String → Run Unit
  | some _ => pure ()
  | none => .fail (.request (.missing "region"))

/-- The home listing, which is empty when the provider fails. -/
def homeOrEmpty (catalogue : Catalogue) : Run (List Video) :=
  match catalogue.home.outcome with
  | .error (.provider problem) =>
      ⟨.ok [], catalogue.home.events ++ [.logged (.homeUnavailable problem)]⟩
  | _ => catalogue.home

def videos (catalogue : Catalogue) (channels : List String) (region : Option String) :
    Run (List Video) := do
  requireRegion region
  let items ← homeOrEmpty catalogue
  if items ≠ [] then return items
  Run.log (.homeEmpty channels.length)
  catalogue.curated channels

def channels (catalogue : Catalogue) (channels : List String) (region : Option String) :
    Run (List Video) := do
  requireRegion region
  catalogue.curated channels

end Endpoint

end KidsListing
