import KidsListing.Feed.Listings
import KidsListing.Proofs.Feed.Aggregation
import KidsListing.Proofs.Provider.Client
import KidsListing.Proofs.Video.Isolation

/-!
# Outcomes of the listings

The fragments of a page are never damaged, so that listing a page fails only
with the provider.  A curated listing does not fail at all: it consists of what
the calls of its channels contribute.
-/

namespace KidsListing

/-- A reply that does not break off fails as one of the provider. -/
theorem Reply.document_error {reply : Reply} {fault : Fault}
    (hunbroken : ∀ defect, ¬ reply.Breaks defect) (h : reply.document = .error fault) :
    ∃ problem, fault = .provider problem := by
  cases fault with
  | request problem => exact absurd h (reply.accountsFor_document.accepted problem)
  | provider problem => exact ⟨problem, rfl⟩
  | defect defect =>
      exact absurd ((reply.accountsFor_document.broken defect).1 h) (hunbroken defect)

/-- What the provider answers an inquiry with is a document. -/
def Provider.Delivers (provider : Provider) (inquiry : Inquiry) (root : Document) : Prop :=
  (provider inquiry).document = .ok root

namespace Listing

/-- The video that a payload decodes to, if it does. -/
def video? (payload : Document) : Option Video :=
  Fragment.item? { content := payload }

theorem filterMap_fragments (payloads : List Document) :
    (fragments payloads).filterMap Fragment.item? = payloads.filterMap video? :=
  List.filterMap_map

theorem idFault?_of_mem_fragments {payloads : List Document} {f : Fragment}
    (h : f ∈ fragments payloads) : f.idFault? = none := by
  obtain ⟨payload, -, rfl⟩ := List.mem_map.1 h
  cases payload <;> rfl

/-- The payloads of a document never fail all together: those that decode are listed,
and those that fail to are warned of. -/
theorem decodeAll_fragments (payloads : List Document) :
    Fragment.decodeAll (fragments payloads) =
      ⟨.ok (payloads.filterMap video?), (fragments payloads).filterMap Fragment.warning?⟩ := by
  have hreadable : ∀ f ∈ fragments payloads, f.idFault? = none :=
    fun f => idFault?_of_mem_fragments
  have houtcome := (Fragment.outcome_decodeAll_eq_ok_iff _).2 hreadable
  rw [filterMap_fragments] at houtcome
  rw [← houtcome, ← Fragment.events_decodeAll_of_readable hreadable]

theorem posts_decodeAll_fragments (payloads : List Document) :
    (Fragment.decodeAll (fragments payloads)).posts = [] := by
  rw [decodeAll_fragments, Fragment.posts_warnings]

/-- The videos of a page are those of the payloads that decode. -/
theorem outcome_pageVideos (settings : Settings) (provider : Provider) (id : String) :
    (pageVideos settings provider id).outcome =
      (Client.browse settings provider (some id)).outcome.map fun root =>
        (fragments (Scan.payloads Scan.videoMarker root)).filterMap Fragment.item? := by
  rw [pageVideos]
  cases h : (Client.browse settings provider (some id)).outcome with
  | error fault =>
      rw [Run.bind_of_error h]
      rfl
  | ok root =>
      rw [Run.bind_of_ok h, decodeAll_fragments]
      exact congrArg Except.ok (filterMap_fragments _).symm

theorem browse_eq_ask {id : String} (h : id ≠ "") (settings : Settings) (provider : Provider) :
    Client.browse settings provider (some id) = Client.ask settings provider (.browse id) := by
  rw [Client.browse]
  simp only [Option.getD_some]
  rw [if_neg h]

theorem outcome_browse {id : String} (h : id ≠ "") (settings : Settings) (provider : Provider) :
    (Client.browse settings provider (some id)).outcome =
      (provider (.browse id)).document := by
  rw [browse_eq_ask h]
  rfl

variable {settings : Settings} {provider : Provider} {root : Document}

/-- Listing a page that is delivered takes one post, and warns of the payloads that
fail to decode. -/
theorem pageVideos_of_delivers {id : String} (h : id ≠ "")
    (hroot : provider.Delivers (.browse id) root) :
    pageVideos settings provider id =
      ⟨.ok ((Scan.payloads Scan.videoMarker root).filterMap video?),
        (Client.ask settings provider (.browse id)).events ++
          (fragments (Scan.payloads Scan.videoMarker root)).filterMap Fragment.warning?⟩ := by
  have hask : (Client.ask settings provider (.browse id)).outcome = .ok root := hroot
  rw [pageVideos, browse_eq_ask h, Run.bind_of_ok hask, decodeAll_fragments]

theorem pageVideos_of_error {id : String} (h : id ≠ "") {fault : Fault}
    (hfault : (provider (.browse id)).document = .error fault) :
    pageVideos settings provider id =
      ⟨.error fault, (Client.ask settings provider (.browse id)).events⟩ := by
  have hask : (Client.ask settings provider (.browse id)).outcome = .error fault := hfault
  rw [pageVideos, browse_eq_ask h, Run.bind_of_error hask]

theorem outcome_pageVideos_of_delivers {id : String} (h : id ≠ "")
    (hroot : provider.Delivers (.browse id) root) :
    (pageVideos settings provider id).outcome =
      .ok ((Scan.payloads Scan.videoMarker root).filterMap video?) := by
  rw [pageVideos_of_delivers h hroot]

theorem outcome_search {query : String} (h : query ≠ "")
    (hlength : query.length ≤ maxQueryLength) :
    (Client.search settings provider (some query)).outcome =
      (provider (.search query)).document := by
  rw [Client.search]
  simp only [Option.getD_some]
  rw [if_neg h, if_neg (Nat.not_lt.2 hlength)]
  rfl

theorem outcome_searchVideos_of_delivers {query : String} (h : query ≠ "")
    (hlength : query.length ≤ maxQueryLength)
    (hroot : provider.Delivers (.search query) root) :
    (searchVideos settings provider (some query)).outcome =
      .ok { items := (Scan.sectionPayloads Scan.videoMarker root).filterMap video? } := by
  have hsearch : (Client.search settings provider (some query)).outcome = .ok root := by
    rw [outcome_search h hlength, hroot]
  rw [searchVideos, Run.bind_of_ok hsearch, decodeAll_fragments]
  rfl

theorem outcome_homeVideos (settings : Settings) (provider : Provider) :
    (homeVideos settings provider).outcome =
      (provider (.browse homePage)).document.map fun root =>
        (fragments (Scan.payloads Scan.videoMarker root)).filterMap Fragment.item? := by
  rw [homeVideos, outcome_pageVideos, outcome_browse (by decide)]

/-- The home listing fails with the defect that its reply breaks off with. -/
theorem outcome_homeVideos_of_breaks {settings : Settings} {provider : Provider}
    {defect : Defect} (h : (provider (.browse homePage)).Breaks defect) :
    (homeVideos settings provider).outcome = .error (.defect defect) := by
  rw [outcome_homeVideos, ((Reply.accountsFor_document _).broken defect).2 h]
  rfl

/-- Otherwise it can only fail with the provider. -/
theorem outcome_homeVideos_error {settings : Settings} {provider : Provider} {fault : Fault}
    (hunbroken : ∀ defect, ¬ (provider (.browse homePage)).Breaks defect)
    (h : (homeVideos settings provider).outcome = .error fault) :
    ∃ problem, fault = .provider problem := by
  rw [outcome_homeVideos] at h
  cases hdocument : (provider (.browse homePage)).document with
  | ok root =>
      rw [hdocument] at h
      cases h
  | error other =>
      rw [hdocument] at h
      obtain rfl := Except.error.inj h
      exact Reply.document_error hunbroken hdocument

/-- The calls of a curated listing. -/
def curatedCalls (settings : Settings) (provider : Provider) (channels : List String) :
    List (Call Video) :=
  (Aggregation.run {} (fetchChannel settings provider) channels).calls

/-- Videos that the calls of the first channels contribute, in order: twenty in
all, four from each of the first five channels and three from every other, at
the most. -/
structure Curated (settings : Settings) (provider : Provider) (channels : List String)
    (videos : List Video) : Prop where
  contributed : videos = (curatedCalls settings provider channels).flatMap Call.contribution
  total : videos.length ≤ 20
  each : ∀ i call, (curatedCalls settings provider channels)[i]? = some call →
    channels[i]? = some call.source ∧
      call.fetched = fetchChannel settings provider call.source ∧
      call.contribution.length ≤ if i < 5 then 4 else 3

theorem curatedVideos_curated (settings : Settings) (provider : Provider)
    (channels : List String) :
    ∃ videos, (curatedVideos settings provider channels {}).outcome = .ok videos ∧
      Curated settings provider channels videos := by
  refine ⟨_, rfl, rfl, Aggregation.length_items_run_le {} _ channels, ?_⟩
  intro i call hcall
  obtain ⟨hsource, hfetched, hlimit⟩ := Aggregation.getElem?_calls_run hcall
  have hindex : i < channels.length := (List.getElem?_eq_some_iff.1 hsource).1
  have hcount : Aggregation.primaryCount {} channels = min 5 channels.length :=
    Aggregation.primaryCount_of_nonneg (by decide) channels
  have hfirst : i < min 5 channels.length ↔ i < 5 := by omega
  refine ⟨hsource, hfetched, ?_⟩
  calc
    call.contribution.length ≤ call.limit := call.length_contribution_le
    _ ≤ (if i < Aggregation.primaryCount {} channels then (4 : Int) else 3).toNat := hlimit
    _ = if i < 5 then 4 else 3 := by
      rw [hcount]
      simp only [hfirst]
      split <;> rfl

end Listing

end KidsListing
