import KidsListing.Proofs.Feed.Listings
import KidsListing.Service.Web

/-!
# Degradation of the listing endpoints

A provider that fails costs the listing endpoints items and nothing more.  The
channels endpoint always gives a list, and the videos endpoint fails with
nothing but the defect that the reply for the home page breaks off with.
-/

namespace KidsListing

open KidsListing.Listing (homePage homeVideos Curated)

namespace Endpoint

variable (settings : Settings) (provider : Provider) (curated : List String)

theorem channels_curated (region : String) :
    ∃ items, (channels (.ofProvider settings provider) curated (some region)).outcome =
        .ok items ∧
      Curated settings provider curated items :=
  Listing.curatedVideos_curated settings provider curated

theorem videos_some (catalogue : Catalogue) (region : String) :
    videos catalogue curated (some region) =
      homeOrEmpty catalogue >>= fun items =>
        if items ≠ [] then pure items
        else Run.log (.homeEmpty curated.length) >>= fun _ => catalogue.curated curated :=
  rfl

variable {settings provider}

theorem outcome_homeOrEmpty_of_breaks {defect : Defect}
    (h : (provider (.browse homePage)).Breaks defect) :
    (homeOrEmpty (.ofProvider settings provider)).outcome = .error (.defect defect) := by
  have hhome : (Catalogue.ofProvider settings provider).home.outcome =
      .error (.defect defect) := Listing.outcome_homeVideos_of_breaks h
  rw [homeOrEmpty, hhome]
  exact hhome

variable (settings) in
/-- A failure of the provider leaves an empty home listing. -/
theorem outcome_homeOrEmpty (hunbroken : ∀ defect, ¬ (provider (.browse homePage)).Breaks defect) :
    ∃ items, (homeOrEmpty (.ofProvider settings provider)).outcome = .ok items ∧
      (items ≠ [] → (homeVideos settings provider).outcome = .ok items) := by
  cases hhome : (homeVideos settings provider).outcome with
  | ok items =>
      refine ⟨items, ?_, fun _ => rfl⟩
      rw [homeOrEmpty, Catalogue.ofProvider, hhome]
      exact hhome
  | error fault =>
      obtain ⟨problem, rfl⟩ := Listing.outcome_homeVideos_error hunbroken hhome
      refine ⟨[], ?_, fun h => absurd rfl h⟩
      rw [homeOrEmpty, Catalogue.ofProvider, hhome]

/-- The videos endpoint gives the items of the home page, or else a curated list. -/
theorem outcome_videos (hunbroken : ∀ defect, ¬ (provider (.browse homePage)).Breaks defect)
    (region : String) :
    ∃ items, (videos (.ofProvider settings provider) curated (some region)).outcome =
        .ok items ∧
      (items ≠ [] ∧ (homeVideos settings provider).outcome = .ok items ∨
        Curated settings provider curated items) := by
  obtain ⟨items, houtcome, hhome⟩ := outcome_homeOrEmpty settings hunbroken
  rw [videos_some, Run.bind_of_ok houtcome]
  by_cases hitems : items = []
  · obtain ⟨others, hothers, hcurated⟩ := channels_curated settings provider curated region
    refine ⟨others, ?_, .inr hcurated⟩
    rw [if_neg (not_not_intro hitems), Run.bind_of_ok (a := ()) rfl]
    exact hothers
  · refine ⟨items, ?_, .inl ⟨hitems, hhome hitems⟩⟩
    rw [if_pos hitems]
    rfl

theorem outcome_videos_of_breaks {defect : Defect}
    (h : (provider (.browse homePage)).Breaks defect) (region : String) :
    (videos (.ofProvider settings provider) curated (some region)).outcome =
      .error (.defect defect) := by
  rw [videos_some, Run.bind_of_error (outcome_homeOrEmpty_of_breaks h)]

end Endpoint

namespace Service

/-- The routes of the listing endpoints. -/
def listingRoutes : List Route := [.videos, .trending, .channels]

variable (service : Service) (provider : Provider)

/-- A request for one of the routes is answered by what its endpoint comes to. -/
theorem respond_of_get {request : Request} {route : Route}
    (hmethod : request.method = "GET") (hroute : Route.find? request.path = some route) :
    service.respond provider request =
      (fun response => { response with
        headers := response.headers ++
          CrossOrigin.answerHeaders service.origins request.headers }) <$>
        (⟨Response.ofOutcome service.writer
            (service.serve provider request.query route).outcome,
          (service.serve provider request.query route).events⟩ : Run Response) := by
  have hordinary : CrossOrigin.preflight? request.method request.headers = none := by
    rw [CrossOrigin.preflight?, hmethod, if_neg (by decide)]
  rw [respond, hordinary, dispatch, hroute]
  simp only [hmethod, if_true]
  rw [← map_eq_pure_bind]

theorem outcome_respond_of_get {request : Request} {route : Route}
    (hmethod : request.method = "GET") (hroute : Route.find? request.path = some route) :
    (service.respond provider request).outcome =
      (Response.ofOutcome service.writer
        (service.serve provider request.query route).outcome).map
        fun response => { response with
          headers := response.headers ++
            CrossOrigin.answerHeaders service.origins request.headers } := by
  rw [respond_of_get service provider hmethod hroute, Run.outcome_map]

theorem posts_respond_of_get {request : Request} {route : Route}
    (hmethod : request.method = "GET") (hroute : Route.find? request.path = some route) :
    (service.respond provider request).posts =
      (service.serve provider request.query route).posts := by
  rw [respond_of_get service provider hmethod hroute, Run.posts_map]
  rfl

theorem outcome_map_listed {run : Run (List Video)}
    (h : (∃ items, run.outcome = .ok items) ∨ ∃ defect, run.outcome = .error (.defect defect)) :
    (∃ document, (listed <$> run).outcome = .ok document) ∨
      ∃ defect, (listed <$> run).outcome = .error (.defect defect) := by
  rw [Run.outcome_map]
  rcases h with ⟨items, hitems⟩ | ⟨defect, hdefect⟩
  · exact .inl ⟨listed items, by rw [hitems]; rfl⟩
  · exact .inr ⟨defect, by rw [hdefect]; rfl⟩

/-- With a region a listing endpoint gives a list, unless a post is broken. -/
theorem outcome_serve_listing {query region : String} {route : Route}
    (hroute : route ∈ listingRoutes)
    (hregion : Query.value? query.toList "region" = some region) :
    (∃ document, (service.serve provider query route).outcome = .ok document) ∨
      ∃ defect, (service.serve provider query route).outcome = .error (.defect defect) := by
  have hvideos : (∃ items, (Endpoint.videos (.ofProvider service.settings provider)
        service.channels (some region)).outcome = .ok items) ∨
      ∃ defect, (Endpoint.videos (.ofProvider service.settings provider)
        service.channels (some region)).outcome = .error (.defect defect) := by
    by_cases hbreaks : ∃ defect, (provider (.browse homePage)).Breaks defect
    · obtain ⟨defect, hdefect⟩ := hbreaks
      exact .inr ⟨defect, Endpoint.outcome_videos_of_breaks service.channels hdefect region⟩
    · obtain ⟨items, hitems, -⟩ :=
        Endpoint.outcome_videos service.channels (not_exists.1 hbreaks) region
      exact .inl ⟨items, hitems⟩
  rw [← hregion] at hvideos
  cases route with
  | health => exact absurd hroute (by decide)
  | search => exact absurd hroute (by decide)
  | videos => exact outcome_map_listed hvideos
  | trending => exact outcome_map_listed hvideos
  | channels =>
      obtain ⟨items, hitems, -⟩ := Endpoint.channels_curated service.settings provider
        service.channels region
      rw [← hregion] at hitems
      exact outcome_map_listed (.inl ⟨items, hitems⟩)

theorem status_respond_listing {request : Request} {route : Route} {region : String}
    {response : Response} (hmethod : request.method = "GET")
    (hroute : Route.find? request.path = some route) (hlisting : route ∈ listingRoutes)
    (hregion : Query.value? request.query.toList "region" = some region)
    (h : (service.respond provider request).outcome = .ok response) :
    response.status = 200 := by
  rw [outcome_respond_of_get service provider hmethod hroute] at h
  rcases outcome_serve_listing service provider hlisting hregion with
    ⟨document, hdocument⟩ | ⟨defect, hdefect⟩
  · rw [hdocument, Response.ofOutcome, Response.written] at h
    split at h
    · obtain rfl := Except.ok.inj h
      rfl
    · cases h
  · rw [hdefect] at h
    cases h

/-- The listing endpoints degrade.  With a region the channels endpoint gives a
curated list; the videos endpoint, which the trending one repeats, gives the
items of the home page or a curated list, and it fails exactly with the defect
that the reply for the home page breaks off with.  No request of theirs is answered by a
failure of the provider or a refusal.  Without a region all refuse, before any
post. -/
theorem listings_degrade :
    (∀ region : String,
      (∃ items, (Endpoint.channels (.ofProvider service.settings provider)
          service.channels (some region)).outcome = .ok items ∧
        Curated service.settings provider service.channels items) ∧
      (∀ defect, (provider (.browse homePage)).Breaks defect →
        (Endpoint.videos (.ofProvider service.settings provider)
          service.channels (some region)).outcome = .error (.defect defect)) ∧
      ((∀ defect, ¬ (provider (.browse homePage)).Breaks defect) →
        ∃ items, (Endpoint.videos (.ofProvider service.settings provider)
            service.channels (some region)).outcome = .ok items ∧
          (items ≠ [] ∧ (homeVideos service.settings provider).outcome = .ok items ∨
            Curated service.settings provider service.channels items))) ∧
    (Endpoint.channels (.ofProvider service.settings provider) service.channels none =
        .fail (.request (.missing "region")) ∧
      Endpoint.videos (.ofProvider service.settings provider) service.channels none =
        .fail (.request (.missing "region"))) ∧
    (∀ query, service.serve provider query .trending =
      service.serve provider query .videos) ∧
    ∀ (request : Request) (route : Route) (region : String) (response : Response),
      request.method = "GET" → Route.find? request.path = some route →
      route ∈ listingRoutes → Query.value? request.query.toList "region" = some region →
      (service.respond provider request).outcome = .ok response → response.status = 200 := by
  refine ⟨fun region => ⟨?_, ?_, ?_⟩, ⟨rfl, rfl⟩, fun _ => rfl, ?_⟩
  · exact Endpoint.channels_curated service.settings provider service.channels region
  · exact fun defect hbreaks => Endpoint.outcome_videos_of_breaks service.channels hbreaks region
  · exact fun hunbroken => Endpoint.outcome_videos service.channels hunbroken region
  · intro request route region response hmethod hroute hlisting hregion h
    exact status_respond_listing service provider hmethod hroute hlisting hregion h

example : (Endpoint.videos (.ofProvider {} fun _ => .unreachable "down") ["UC1", "UC2"]
    (some "")).outcome = .ok [] := by rfl

end Service

end KidsListing
