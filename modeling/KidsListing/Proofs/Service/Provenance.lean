import KidsListing.Proofs.Feed.Provenance
import KidsListing.Proofs.Service.Fallback

/-!
# Where served videos come from

Every video that an endpoint serves is genuine: it is well formed, and it comes
out of the reply to a post of the same request.  What the home page of a failing
provider leaves behind adds nothing of its own.
-/

namespace KidsListing

/-- A page has nothing but videos that are genuine by some posts. -/
structure SearchPage.Genuine (provider : Provider) (posts : List Post) (page : SearchPage) :
    Prop where
  items : ∀ v ∈ page.items, KidsListing.Genuine provider posts v
  nextPageToken : page.nextPageToken = none
  suggestion : page.suggestion = none
  corrected : page.corrected = false

namespace Run

/-- Whatever a run gives has some property by its own posts. -/
def Gives {α : Type} (P : List Post → α → Prop) (run : Run α) : Prop :=
  ∀ a, run.outcome = .ok a → P run.posts a

/-- The videos that a run gives are genuine. -/
def Serves (provider : Provider) (run : Run (List Video)) : Prop :=
  run.Gives fun posts videos => ∀ v ∈ videos, Genuine provider posts v

/-- The page that a run gives is genuine. -/
def ServesPage (provider : Provider) (run : Run SearchPage) : Prop :=
  run.Gives fun posts page => page.Genuine provider posts

/-- What is written of something has the property of that, by the same posts. -/
theorem Gives.map {α : Type} {P : List Post → α → Prop} {run : Run α} (h : run.Gives P)
    (write : α → Document) :
    (write <$> run).Gives fun posts document => ∃ a, document = write a ∧ P posts a := by
  intro document hdocument
  rw [outcome_map] at hdocument
  obtain ⟨a, ha, rfl⟩ := Fragment.map_eq_ok hdocument
  refine ⟨a, rfl, ?_⟩
  rw [posts_map]
  exact h a ha

theorem serves_fail (provider : Provider) (fault : Fault) : (Run.fail fault).Serves provider :=
  nofun

end Run

namespace Listing

variable (settings : Settings) (provider : Provider)

theorem serves_pageVideos (id : String) : (pageVideos settings provider id).Serves provider :=
  fun _ => genuine_of_pageVideos

theorem serves_curatedVideos (channels : List String) (policy : Policy) :
    (curatedVideos settings provider channels policy).Serves provider :=
  fun _ => genuine_of_curatedVideos

theorem servesPage_searchVideos (query : Option String) :
    (searchVideos settings provider query).ServesPage provider := by
  intro page hpage
  obtain ⟨hdefaults, hitems⟩ := genuine_of_searchVideos hpage
  exact {
    items := hitems
    nextPageToken := congrArg SearchPage.nextPageToken hdefaults
    suggestion := congrArg SearchPage.suggestion hdefaults
    corrected := congrArg SearchPage.corrected hdefaults }

end Listing

namespace Endpoint

variable (settings : Settings) (provider : Provider) (curated : List String)

/-- The home listing that takes the place of a failed one is empty. -/
theorem serves_homeOrEmpty :
    (homeOrEmpty (.ofProvider settings provider)).Serves provider := by
  have hhome : (Catalogue.ofProvider settings provider).home.Serves provider :=
    Listing.serves_pageVideos settings provider Listing.homePage
  intro videos hvideos v hv
  unfold homeOrEmpty at hvideos ⊢
  split at hvideos
  · rw [← Except.ok.inj hvideos] at hv
    cases hv
  · exact hhome videos hvideos v hv

theorem serves_channels (region : Option String) :
    (channels (.ofProvider settings provider) curated region).Serves provider := by
  cases region with
  | none => exact Run.serves_fail provider _
  | some region => exact Listing.serves_curatedVideos settings provider curated {}

theorem serves_videos (region : Option String) :
    (videos (.ofProvider settings provider) curated region).Serves provider := by
  cases region with
  | none => exact Run.serves_fail provider _
  | some region =>
      intro served hserved
      cases hhome : (homeOrEmpty (.ofProvider settings provider)).outcome with
      | error fault =>
          rw [videos_some, Run.bind_of_error hhome] at hserved
          cases hserved
      | ok items =>
          by_cases hitems : items = []
          · rw [hitems] at hhome
            obtain ⟨houtcome, hposts, -⟩ := videos_of_no_items curated region hhome
            rw [houtcome] at hserved
            intro v hv
            have hgenuine := serves_channels settings provider curated _ served hserved v hv
            rw [hposts]
            exact hgenuine.mono (List.subset_append_right _ _)
          · rw [videos_of_items curated region hhome hitems] at hserved ⊢
            exact serves_homeOrEmpty settings provider served hserved

end Endpoint

namespace Service

variable (service : Service) (provider : Provider)

theorem serve_search_genuine (query : String) :
    (service.serve provider query .search).Gives fun posts document =>
      ∃ page : SearchPage, document = page.toDocument ∧ page.Genuine provider posts :=
  (Listing.servesPage_searchVideos service.settings provider _).map SearchPage.toDocument

theorem serve_listing_genuine {route : Route} (hroute : route ∈ listingRoutes) (query : String) :
    (service.serve provider query route).Gives fun posts document =>
      ∃ videos, document = listed videos ∧ ∀ v ∈ videos, Genuine provider posts v := by
  have hvideos := Endpoint.serves_videos service.settings provider service.channels
    (Query.value? query.toList "region")
  have hchannels := Endpoint.serves_channels service.settings provider service.channels
    (Query.value? query.toList "region")
  cases route with
  | health => exact absurd hroute (by decide)
  | search => exact absurd hroute (by decide)
  | videos => exact Run.Gives.map hvideos listed
  | trending => exact Run.Gives.map hvideos listed
  | channels => exact Run.Gives.map hchannels listed

/-- Every listing, every endpoint and every route that lists videos serves genuine ones
only.  A curated listing does so too when the provider changes from one call to the
next. -/
theorem served_videos_genuine :
    (∀ query, (Listing.searchVideos service.settings provider query).ServesPage provider) ∧
    (Listing.homeVideos service.settings provider).Serves provider ∧
    (∀ channel, (Listing.channelVideos service.settings provider channel).Serves provider) ∧
    (∀ channels policy,
      (Listing.curatedVideos service.settings provider channels policy).Serves provider) ∧
    (∀ query filter, (Endpoint.search (.ofProvider service.settings provider)
      query filter).ServesPage provider) ∧
    (∀ channels region, (Endpoint.videos (.ofProvider service.settings provider)
      channels region).Serves provider) ∧
    (∀ channels region, (Endpoint.channels (.ofProvider service.settings provider)
      channels region).Serves provider) ∧
    (∀ query, (service.serve provider query .search).Gives fun posts document =>
      ∃ page : SearchPage, document = page.toDocument ∧ page.Genuine provider posts) ∧
    (∀ route ∈ listingRoutes, ∀ query,
      (service.serve provider query route).Gives fun posts document =>
        ∃ videos, document = listed videos ∧ ∀ v ∈ videos, Genuine provider posts v) ∧
    ∀ (providers : String → Provider) (channel : String → String) policy turns,
      let collected := Aggregation.run policy
        (fun turn => Listing.fetchChannel service.settings (providers turn) (channel turn)) turns
      ∀ v ∈ collected.items, ∃ call ∈ collected.calls,
        Genuine (providers call.source) (Listing.channelVideos service.settings
          (providers call.source) (channel call.source)).posts v := by
  refine ⟨?_, ?_, ?_, ?_, ?_, ?_, ?_, ?_, ?_, ?_⟩
  · exact Listing.servesPage_searchVideos service.settings provider
  · exact Listing.serves_pageVideos service.settings provider Listing.homePage
  · exact Listing.serves_pageVideos service.settings provider
  · exact Listing.serves_curatedVideos service.settings provider
  · exact fun query _ =>
      Listing.servesPage_searchVideos service.settings provider (some (query.getD ""))
  · exact Endpoint.serves_videos service.settings provider
  · exact Endpoint.serves_channels service.settings provider
  · exact service.serve_search_genuine provider
  · exact fun _ => service.serve_listing_genuine provider
  · exact fun providers channel _ _ _ => Listing.genuine_of_turns providers channel

/-- The video that is served in place of a failed home page comes from a channel. -/
theorem served_fallback_genuine :
    ∃ video, Listing.homeItems onePage = [video] ∧
      (answerTo Endpoint.videos (.answered 503 .notJson)).outcome = .ok [video] ∧
      Genuine (homeReplying (.answered 503 .notJson))
        (answerTo Endpoint.videos (.answered 503 .notJson)).posts video := by
  obtain ⟨-, -, -, -, -, hvideos, -⟩ :=
    served_videos_genuine {} (homeReplying (.answered 503 .notJson))
  refine ⟨_, rfl, rfl, ?_⟩
  exact hvideos ["UC1"] (some "") _ rfl _ (List.mem_singleton_self _)

end Service

end KidsListing
