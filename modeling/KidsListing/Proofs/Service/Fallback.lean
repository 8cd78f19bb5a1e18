import KidsListing.Proofs.Service.Degradation

/-!
# Falling back on the curated channels

The videos endpoint asks for the home page once.  The videos of that page are
its answer, if there are any; and if there are none, or the provider fails, the
endpoint goes on exactly as the channels endpoint does, with the same items, the
same posts and the same log, after a notice and, for a failure, a warning.
-/

namespace KidsListing

open KidsListing.Listing (homePage homeVideos video?)

namespace Listing

/-- The videos of a home page, in the order of the scan. -/
def homeItems (root : Document) : List Video :=
  (Scan.payloads Scan.videoMarker root).filterMap video?

/-- The one post for the home page. -/
def homePost (settings : Settings) : Post :=
  Inquiry.post settings (.browse homePage)

variable (settings : Settings) {provider : Provider} {root : Document}

theorem outcome_homeVideos_of_delivers (h : provider.Delivers (.browse homePage) root) :
    (homeVideos settings provider).outcome = .ok (homeItems root) :=
  outcome_pageVideos_of_delivers (by decide) h

theorem posts_homeVideos_of_delivers (h : provider.Delivers (.browse homePage) root) :
    (homeVideos settings provider).posts = [homePost settings] := by
  rw [homeVideos, pageVideos_of_delivers (by decide) h, Run.posts_append _ (.ok ()),
    Fragment.posts_warnings]
  rfl

theorem logger_of_mem_notes_homeVideos (h : provider.Delivers (.browse homePage) root)
    {entry : LogEntry} (hentry : entry ∈ (homeVideos settings provider).notes) :
    entry.logger = "kids_feed.parsing" := by
  rw [homeVideos, pageVideos_of_delivers (by decide) h, Run.notes_append _ (.ok ())] at hentry
  rcases List.mem_append.1 hentry with hask | hwarning
  · cases hask
  · exact Fragment.logger_of_mem_notes_warnings _ _ hwarning

end Listing

namespace Endpoint

open KidsListing.Listing (homeItems homePost)

/-! ## The parts of a request for videos -/

section Parts

variable {catalogue : Catalogue} (curated : List String) (region : String)

theorem channels_some :
    channels catalogue curated (some region) = catalogue.curated curated :=
  rfl

theorem videos_of_items {items : List Video} (h : (homeOrEmpty catalogue).outcome = .ok items)
    (hitems : items ≠ []) :
    videos catalogue curated (some region) = homeOrEmpty catalogue := by
  have hpure : (pure items : Run (List Video)) = ⟨(homeOrEmpty catalogue).outcome, []⟩ := by
    rw [h]
    rfl
  rw [videos_some, Run.bind_of_ok h, if_pos hitems, hpure, List.append_nil]

/-- Without videos on the home page the endpoint gives a notice and goes on as the
channels endpoint. -/
theorem videos_of_no_items (h : (homeOrEmpty catalogue).outcome = .ok []) :
    (videos catalogue curated (some region)).outcome =
        (channels catalogue curated (some region)).outcome ∧
      (videos catalogue curated (some region)).posts =
        (homeOrEmpty catalogue).posts ++
          (channels catalogue curated (some region)).posts ∧
      (videos catalogue curated (some region)).notes =
        (homeOrEmpty catalogue).notes ++ .homeEmpty curated.length ::
          (channels catalogue curated (some region)).notes := by
  rw [videos_some, channels_some]
  refine ⟨?_, ?_, ?_⟩
  · rw [Run.bind_of_ok h]
    rfl
  · rw [Run.posts_bind_of_ok h]
    rfl
  · rw [Run.notes_bind_of_ok h]
    rfl

end Parts

/-! ## Both endpoints -/

variable (settings : Settings) {provider : Provider} (curated : List String) (region : String)

theorem homeOrEmpty_of_delivers {root : Document}
    (h : provider.Delivers (.browse homePage) root) :
    homeOrEmpty (.ofProvider settings provider) = homeVideos settings provider := by
  have houtcome := Listing.outcome_homeVideos_of_delivers settings h
  rw [homeOrEmpty, Catalogue.ofProvider, houtcome]

theorem homeOrEmpty_of_problem {problem : ProviderProblem}
    (h : (provider (.browse homePage)).document = .error (.provider problem)) :
    homeOrEmpty (.ofProvider settings provider) =
      ⟨.ok [], (Client.ask settings provider (.browse homePage)).events ++
        [.logged (.homeUnavailable problem)]⟩ := by
  have hhome : homeVideos settings provider = _ := Listing.pageVideos_of_error (by decide) h
  rw [homeOrEmpty, Catalogue.ofProvider, hhome]

/-- How the videos endpoint falls back on the channels endpoint, after the given
failure of the provider if there is one. -/
structure FallsBack (settings : Settings) (curated : List String)
    (problem? : Option ProviderProblem) (videos channels : Run (List Video)) : Prop where
  items : ∃ items, channels.outcome = .ok items ∧ videos.outcome = .ok items
  posts : videos.posts = homePost settings :: channels.posts
  notes : ∃ skipped : List LogEntry,
    (∀ entry ∈ skipped, entry.logger = "kids_feed.parsing") ∧
    (problem?.isSome → skipped = []) ∧
    videos.notes = skipped ++ (problem?.map LogEntry.homeUnavailable).toList ++
      .homeEmpty curated.length :: channels.notes

/-- What an empty home listing has posted and logged is what comes before the
curated one. -/
theorem fallsBack_of_no_items {problem? : Option ProviderProblem} (skipped : List LogEntry)
    (h : (homeOrEmpty (.ofProvider settings provider)).outcome = .ok [])
    (hposts : (homeOrEmpty (.ofProvider settings provider)).posts = [homePost settings])
    (hparsing : ∀ entry ∈ skipped, entry.logger = "kids_feed.parsing")
    (hskipped : problem?.isSome → skipped = [])
    (hnotes : (homeOrEmpty (.ofProvider settings provider)).notes =
      skipped ++ (problem?.map LogEntry.homeUnavailable).toList) :
    FallsBack settings curated problem?
      (videos (.ofProvider settings provider) curated (some region))
      (channels (.ofProvider settings provider) curated (some region)) := by
  obtain ⟨hitems, hafter, hlogged⟩ := videos_of_no_items curated region h
  obtain ⟨items, hchannels, -⟩ := channels_curated settings provider curated region
  refine ⟨⟨items, hchannels, ?_⟩, ?_, skipped, hparsing, hskipped, ?_⟩
  · rw [hitems, hchannels]
  · rw [hafter, hposts]
    rfl
  · rw [hlogged, hnotes]

theorem fallsBack_of_delivers {root : Document}
    (h : provider.Delivers (.browse homePage) root) (hitems : homeItems root = []) :
    FallsBack settings curated none
      (videos (.ofProvider settings provider) curated (some region))
      (channels (.ofProvider settings provider) curated (some region)) := by
  have hhome := homeOrEmpty_of_delivers settings h
  apply fallsBack_of_no_items settings curated region (homeVideos settings provider).notes
  · rw [hhome, Listing.outcome_homeVideos_of_delivers settings h, hitems]
  · rw [hhome, Listing.posts_homeVideos_of_delivers settings h]
  · exact fun entry => Listing.logger_of_mem_notes_homeVideos settings h
  · exact fun hproblem => absurd hproblem (by decide)
  · rw [hhome]
    exact (List.append_nil _).symm

theorem fallsBack_of_problem {problem : ProviderProblem}
    (h : (provider (.browse homePage)).document = .error (.provider problem)) :
    FallsBack settings curated (some problem)
      (videos (.ofProvider settings provider) curated (some region))
      (channels (.ofProvider settings provider) curated (some region)) := by
  have hhome := homeOrEmpty_of_problem settings h
  apply fallsBack_of_no_items settings curated region []
  · rw [hhome]
  · rw [hhome]
    rfl
  · exact fun entry hentry => absurd hentry List.not_mem_nil
  · exact fun _ => rfl
  · rw [hhome]
    rfl

end Endpoint

namespace Service

open KidsListing.Endpoint (FallsBack)
open KidsListing.Listing (homeItems homePost)

variable (service : Service) (provider : Provider) (region : String)

/-- The videos endpoint, which the trending one repeats, gives the items of the
home page if there are any, after the one post for that page and with nothing
logged but fragments that fail to decode.  If there are none, or the provider
fails, it falls back on the channels endpoint. -/
theorem videos_fall_back_on_channels :
    let videos := Endpoint.videos (.ofProvider service.settings provider)
      service.channels (some region)
    let channels := Endpoint.channels (.ofProvider service.settings provider)
      service.channels (some region)
    (∀ root, provider.Delivers (.browse homePage) root → homeItems root ≠ [] →
      videos.outcome = .ok (homeItems root) ∧ videos.posts = [homePost service.settings] ∧
        ∀ entry ∈ videos.notes, entry.logger = "kids_feed.parsing") ∧
    (∀ root, provider.Delivers (.browse homePage) root → homeItems root = [] →
      FallsBack service.settings service.channels none videos channels) ∧
    (∀ problem, (provider (.browse homePage)).document = .error (.provider problem) →
      FallsBack service.settings service.channels (some problem) videos channels) ∧
    ∀ query, service.serve provider query .trending = service.serve provider query .videos := by
  refine ⟨?_, ?_, ?_, fun _ => rfl⟩
  · intro root hroot hitems
    have hhome := Endpoint.homeOrEmpty_of_delivers service.settings hroot
    have houtcome := Listing.outcome_homeVideos_of_delivers service.settings hroot
    rw [Endpoint.videos_of_items service.channels region (hhome ▸ houtcome) hitems, hhome]
    exact ⟨houtcome, Listing.posts_homeVideos_of_delivers service.settings hroot,
      fun entry => Listing.logger_of_mem_notes_homeVideos service.settings hroot⟩
  · intro root hroot hitems
    exact Endpoint.fallsBack_of_delivers service.settings service.channels region hroot hitems
  · intro problem hproblem
    exact Endpoint.fallsBack_of_problem service.settings service.channels region hproblem

def onePage : Document :=
  .object [(Scan.videoMarker, .object [("videoId", .text "a")])]

/-- A provider with one video on every page but the home page. -/
def homeReplying (home : Reply) : Provider
  | .browse id => if id = homePage then home else .answered 200 (.document onePage)
  | .search _ => .unreachable "down"

/-- What an endpoint answers with the channel "UC1", by the reply for the home page. -/
def answerTo (endpoint : Catalogue → List String → Option String → Run (List Video))
    (home : Reply) : Run (List Video) :=
  endpoint (.ofProvider {} (homeReplying home)) ["UC1"] (some "")

theorem videos_homeReplying :
    (∃ video, homeItems onePage = [video] ∧
      (answerTo Endpoint.videos (.answered 200 (.document onePage))).outcome = .ok [video] ∧
      (answerTo Endpoint.videos (.answered 200 (.document onePage))).posts = [homePost {}]) ∧
    FallsBack {} ["UC1"] none (answerTo Endpoint.videos (.answered 200 (.document .null)))
      (answerTo Endpoint.channels (.answered 200 (.document .null))) ∧
    (answerTo Endpoint.channels (.answered 503 .notJson)).outcome = .ok (homeItems onePage) ∧
    FallsBack {} ["UC1"] (some (.refused 503))
      (answerTo Endpoint.videos (.answered 503 .notJson))
      (answerTo Endpoint.channels (.answered 503 .notJson)) := by
  refine ⟨?_, ?_, rfl, ?_⟩
  · obtain ⟨hitems, -⟩ := videos_fall_back_on_channels { channels := ["UC1"] }
      (homeReplying (.answered 200 (.document onePage))) ""
    obtain ⟨houtcome, hposts, -⟩ := hitems onePage rfl (List.cons_ne_nil _ _)
    exact ⟨_, rfl, houtcome, hposts⟩
  · obtain ⟨-, hempty, -⟩ := videos_fall_back_on_channels { channels := ["UC1"] }
      (homeReplying (.answered 200 (.document .null))) ""
    exact hempty .null rfl rfl
  · obtain ⟨-, -, hfails, -⟩ := videos_fall_back_on_channels { channels := ["UC1"] }
      (homeReplying (.answered 503 .notJson)) ""
    exact hfails (.refused 503) rfl

end Service

end KidsListing
