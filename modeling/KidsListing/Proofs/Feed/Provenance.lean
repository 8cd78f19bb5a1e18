import KidsListing.Proofs.Feed.Listings
import KidsListing.Proofs.Feed.Metering
import KidsListing.Proofs.Provider.Client
import KidsListing.Proofs.Video.Keys
import KidsListing.Proofs.Video.SectionScan

/-!
# Where listed videos come from

A listed video has a certain shape, and it was decoded from a payload in a
document that the provider delivered in answer to a post of the same run.  A
curated listing adds no video of its own: each of its videos is one of a listing
that one of its calls fetched.
-/

namespace KidsListing

/-! ## The shape of a video -/

/-- The shape of every video that is decoded. -/
structure Video.WellFormed (v : Video) : Prop where
  type : v.type = "stream"
  url : ∃ id, id ≠ "" ∧ v.url = "/watch?v=" ++ id
  uploaderUrl : v.uploaderUrl = none ∨ ∃ id, id ≠ "" ∧ v.uploaderUrl = some ("/channel/" ++ id)
  durationSeconds : -1 ≤ v.durationSeconds
  viewCount : -1 ≤ v.viewCount
  shortDescription : v.shortDescription = ""
  uploadedTimestamp : v.uploadedTimestamp = -1
  uploaderVerified : v.uploaderVerified = false
  isShort : v.isShort = false

namespace Fragment

theorem map_eq_error_iff {α β : Type} {f : α → β} {outcome : Except Fault α} {fault : Fault} :
    outcome.map f = .error fault ↔ outcome = .error fault := by
  cases outcome with
  | error other => simp only [Except.map, Except.error.injEq]
  | ok a => exact iff_of_false nofun nofun

theorem neg_one_le_counted (count : Option Nat) : -1 ≤ counted count := by
  cases count with
  | none => exact Int.le_refl (-1)
  | some n => exact Int.le_trans (by decide) (Int.natCast_nonneg n)

theorem ne_empty_of_linkedChannel {node : Document} {id : String}
    (h : node.linkedChannel = .ok (some id)) : id ≠ "" := by
  obtain ⟨taken, -, hid⟩ := map_eq_ok h
  split at hid
  · cases hid
  · rename_i hne
    rwa [← Option.some.inj hid]

theorem uploaderUrl_of_readOff {d : Document} {v : Video} (h : ReadOff d v) :
    v.uploaderUrl = none ∨ ∃ id, id ≠ "" ∧ v.uploaderUrl = some ("/channel/" ++ id) := by
  obtain ⟨channel, hchannel, hurl⟩ := map_eq_ok h.uploaderUrl
  cases channel with
  | none => exact .inl hurl.symm
  | some id => exact .inr ⟨id, ne_empty_of_linkedChannel hchannel, hurl.symm⟩

theorem neg_one_le_durationSeconds {d : Document} {v : Video} (h : ReadOff d v) :
    -1 ≤ v.durationSeconds := by
  obtain ⟨text, -, hduration⟩ := map_eq_ok h.durationSeconds
  rw [← hduration]
  exact neg_one_le_counted _

theorem neg_one_le_viewCount {d : Document} {v : Video} (h : ReadOff d v) :
    -1 ≤ v.viewCount := by
  obtain ⟨text, -, hcount⟩ := bind_eq_ok h.viewCount
  obtain ⟨count, -, hviews⟩ := map_eq_ok hcount
  rw [← hviews]
  exact neg_one_le_counted count

theorem wellFormed_of_decode {d : Document} {v : Video}
    (h : decode { content := d } = .item v) : v.WellFormed := by
  obtain ⟨id, hid, hresult⟩ := video?_eq_ok (video?_of_decode_eq_item h)
  rcases hresult with ⟨-, hnone⟩ | ⟨hne, w, hsome, hread⟩
  · cases hnone
  · obtain rfl := Option.some.inj hsome
    have hurl : v.url = watchUrl id := by
      obtain ⟨taken, htaken, hurl⟩ := map_eq_ok hread.url
      rw [hid] at htaken
      rw [← hurl, Except.ok.inj htaken]
    exact {
      type := rfl
      url := ⟨id, hne, hurl⟩
      uploaderUrl := uploaderUrl_of_readOff hread
      durationSeconds := neg_one_le_durationSeconds hread
      viewCount := neg_one_le_viewCount hread
      shortDescription := hread.shortDescription
      uploadedTimestamp := hread.uploadedTimestamp
      uploaderVerified := hread.uploaderVerified
      isShort := hread.isShort }

theorem decode_of_item? {f : Fragment} {v : Video} (h : f.item? = some v) :
    f.decode = .item v := by
  unfold item? at h
  split at h
  · rename_i hdecode
    rw [hdecode, Option.some.inj h]
  · cases h

end Fragment

/-! ## Deliveries -/

/-- A video comes out of a reply: it decodes from a payload in the document of a
successful answer. -/
def Reply.Yields (reply : Reply) (v : Video) : Prop :=
  ∃ status root payload, reply = .answered status (.document root) ∧
    Reply.Successful status ∧ Scan.Marked Scan.videoMarker root payload ∧
    Fragment.decode { content := payload } = .item v

/-- A video is well formed and comes out of the reply to one of some posts. -/
def Genuine (provider : Provider) (posts : List Post) (v : Video) : Prop :=
  v.WellFormed ∧ ∃ post ∈ posts, (provider post.inquiry).Yields v

theorem Genuine.mono {provider : Provider} {posts others : List Post} {v : Video}
    (h : Genuine provider posts v) (hposts : posts ⊆ others) : Genuine provider others v := by
  obtain ⟨hformed, post, hpost, hyields⟩ := h
  exact ⟨hformed, post, hposts hpost, hyields⟩

namespace Client.Operation

variable {settings : Settings} {provider : Provider} (operation : Operation)

/-- A document comes in answer to the one post of the operation. -/
theorem asked_of_outcome_run {root : Document}
    (h : (operation.run settings provider).outcome = .ok root) :
    ∃ inquiry, (operation.run settings provider).posts = [inquiry.post settings] ∧
      (provider inquiry).document = .ok root := by
  cases hinquiry : operation.inquiry? with
  | none =>
      obtain ⟨problem, hrun⟩ := run_of_no_inquiry settings hinquiry
      rw [hrun] at h
      cases h
  | some inquiry =>
      refine ⟨inquiry, ?_, ?_⟩
      · rw [posts_run, hinquiry]
        rfl
      · rwa [run_of_inquiry settings provider hinquiry] at h

/-- Videos that a scan of an asked document finds are genuine. -/
theorem genuine_of_scan {scan : Document → List Document}
    (hscan : ∀ root, ∀ payload ∈ scan root, Scan.Marked Scan.videoMarker root payload)
    {videos : List Video}
    (h : (operation.run settings provider >>= fun root =>
      Fragment.decodeAll (Listing.fragments (scan root))).outcome = .ok videos) :
    ∀ v ∈ videos, Genuine provider (operation.run settings provider >>= fun root =>
      Fragment.decodeAll (Listing.fragments (scan root))).posts v := by
  intro v hv
  cases hroot : (operation.run settings provider).outcome with
  | error fault =>
      rw [Run.bind_of_error hroot] at h
      cases h
  | ok root =>
      obtain ⟨inquiry, hposts, hdocument⟩ := asked_of_outcome_run operation hroot
      rw [Run.bind_of_ok hroot, Listing.decodeAll_fragments] at h
      obtain rfl := Except.ok.inj h
      obtain ⟨payload, hpayload, hitem⟩ := List.mem_filterMap.1 hv
      have hdecode := Fragment.decode_of_item? hitem
      obtain ⟨status, hreply, hstatus⟩ :=
        ((provider inquiry).accountsFor_document.document root).1 hdocument
      refine ⟨Fragment.wellFormed_of_decode hdecode, inquiry.post settings, ?_,
        status, root, payload, hreply, hstatus, hscan root payload hpayload, hdecode⟩
      rw [Run.posts_bind_of_ok hroot, hposts]
      exact List.mem_append_left _ (List.mem_singleton_self _)

end Client.Operation

namespace Listing

open KidsListing.Client (Operation)

variable {settings : Settings} {provider : Provider}

theorem genuine_of_pageVideos {id : String} {videos : List Video}
    (h : (pageVideos settings provider id).outcome = .ok videos) :
    ∀ v ∈ videos, Genuine provider (pageVideos settings provider id).posts v :=
  Operation.genuine_of_scan (.browse (some id)) (fun _ _ => Scan.marked_of_mem_payloads) h

/-- A search gives its videos and nothing else. -/
def onlyItems (items : List Video) : SearchPage := { items }

theorem searchVideos_eq_map (query : Option String) :
    searchVideos settings provider query =
      onlyItems <$> (Operation.run settings provider (.search query) >>= fun root =>
        Fragment.decodeAll (fragments (Scan.sectionPayloads Scan.videoMarker root))) := by
  rw [map_eq_pure_bind, bind_assoc]
  rfl

theorem genuine_of_searchVideos {query : Option String} {page : SearchPage}
    (h : (searchVideos settings provider query).outcome = .ok page) :
    page = { items := page.items } ∧
      ∀ v ∈ page.items, Genuine provider (searchVideos settings provider query).posts v := by
  rw [searchVideos_eq_map, Run.outcome_map] at h
  obtain ⟨videos, hvideos, rfl⟩ := Fragment.map_eq_ok h
  refine ⟨rfl, ?_⟩
  rw [searchVideos_eq_map, Run.posts, Run.events_map]
  exact Operation.genuine_of_scan (.search query)
    (fun _ _ => Scan.marked_of_mem_sectionPayloads) hvideos

end Listing

/-! ## Collections -/

theorem Call.contribution_subset {α : Type} (call : Call α) :
    call.contribution ⊆ call.fetched.available := by
  by_cases hfails : call.fetched.Fails call.limit
  · rw [contribution_of_fails hfails]
    exact List.nil_subset _
  · by_cases hlimit : call.limit ≤ maxLimit
    · rw [contribution_of_not_fails hlimit hfails]
      exact List.take_subset _ _
    · rw [contribution_of_maxLimit_lt (Nat.lt_of_not_le hlimit)]
      exact List.nil_subset _

namespace Aggregation

variable {α : Type}

/-- Every item is one of those that a call fetched. -/
theorem exists_call_of_mem_items {policy : Policy} {fetch : String → Fetched α}
    {sources : List String} {x : α} (h : x ∈ (run policy fetch sources).items) :
    ∃ call ∈ (run policy fetch sources).calls, x ∈ (fetch call.source).available := by
  obtain ⟨call, hcall, hx⟩ := List.mem_flatMap.1 h
  refine ⟨call, hcall, ?_⟩
  rw [← fetched_of_mem_calls_run hcall]
  exact call.contribution_subset hx

theorem own_subset_passEvents {own : String → List Event} {calls : List (Call α)}
    {call : Call α} (hcall : call ∈ calls) : own call.source ⊆ passEvents own calls := by
  intro event hevent
  exact List.mem_flatMap.2 ⟨call, hcall, List.mem_append_left _ hevent⟩

/-- The events of fetching a source that is called are among those of the whole. -/
theorem own_subset_events (policy : Policy) (own : String → List Event) {a : Aggregation α}
    {call : Call α} (hcall : call ∈ a.calls) : own call.source ⊆ a.events policy own := by
  rw [events]
  rcases List.mem_append.1 hcall with hprimary | hfallback
  · exact List.subset_append_of_subset_left _ (own_subset_passEvents hprimary)
  · apply List.subset_append_of_subset_right
    unfold fallbackCalls at hfallback
    split at hfallback
    · rename_i heq
      rw [heq]
      exact List.subset_cons_of_subset _ (own_subset_passEvents hfallback)
    · cases hfallback

end Aggregation

namespace Listing

variable {settings : Settings}

theorem mem_available_fetchChannel {provider : Provider} {channel : String} {v : Video}
    (h : v ∈ (fetchChannel settings provider channel).available) :
    ∃ videos, (channelVideos settings provider channel).outcome = .ok videos ∧ v ∈ videos := by
  unfold fetchChannel at h
  split at h
  · rename_i videos houtcome
    exact ⟨videos, houtcome, h⟩
  · cases h

/-- However the provider may change from one turn to the next, a collected video is
genuine by what the provider is at the turn of one of the calls.  A source is no more
than the name of a turn here: several may stand for one channel. -/
theorem genuine_of_turns (providers : String → Provider) (channel : String → String)
    {policy : Policy} {turns : List String} {v : Video}
    (h : v ∈ (Aggregation.run policy
      (fun turn => fetchChannel settings (providers turn) (channel turn)) turns).items) :
    ∃ call ∈ (Aggregation.run policy
        (fun turn => fetchChannel settings (providers turn) (channel turn)) turns).calls,
      Genuine (providers call.source)
        (channelVideos settings (providers call.source) (channel call.source)).posts v := by
  obtain ⟨call, hcall, havailable⟩ := Aggregation.exists_call_of_mem_items h
  obtain ⟨videos, houtcome, hv⟩ := mem_available_fetchChannel havailable
  exact ⟨call, hcall, genuine_of_pageVideos houtcome v hv⟩

theorem genuine_of_curatedVideos {provider : Provider} {channels : List String}
    {policy : Policy} {videos : List Video}
    (h : (curatedVideos settings provider channels policy).outcome = .ok videos) :
    ∀ v ∈ videos, Genuine provider (curatedVideos settings provider channels policy).posts v := by
  intro v hv
  rw [← Except.ok.inj h] at hv
  obtain ⟨call, hcall, hgenuine⟩ :=
    genuine_of_turns (fun _ => provider) (fun channel => channel) hv
  have hevents := Aggregation.own_subset_events policy
    (fun channel => (channelVideos settings provider channel).events) hcall
  exact hgenuine.mono (List.filterMap_subset _ hevents)

end Listing

end KidsListing
