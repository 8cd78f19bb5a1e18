import KidsListing.Proofs.Feed.Provenance
import KidsListing.Proofs.Video.WritableCounts

/-!
# What a search lists

A search lists the videos of the payloads at the places of the section scan, in the
order of these places.  In a written document a payload with a usable id is among
them unless its view count is refused, and all that is listed can be written unless some
number is oversized; and documents with the same payloads at these
places are the same to a search.
-/

namespace KidsListing

open KidsListing.Scan (Place atPlace places SameSections videoMarker)

/-! ## Payloads with a usable id -/

/-- The view count of a document is refused. -/
def Document.ViewsRefused (d : Document) : Prop :=
  ∃ views, (d.step "viewCountText").label = .ok views ∧ ViewCount.Refused views.toList

/-- One of the two texts that the numbers of a video come from is oversized. -/
def Document.NumbersOversized (d : Document) : Prop :=
  (∃ length, (d.step "lengthText").label = .ok length ∧ Duration.Oversized length.toList) ∨
    ∃ views, (d.step "viewCountText").label = .ok views ∧ ViewCount.Oversized views.toList

theorem Document.ViewsRefused.numbersOversized {d : Document} (h : d.ViewsRefused) :
    d.NumbersOversized := by
  obtain ⟨views, hviews, hrefused⟩ := h
  exact .inr ⟨views, hviews, ViewCount.oversized_of_refused hrefused⟩

namespace Fragment

theorem written_iff_not_numbersOversized {d : Document} {v : Video}
    (h : decode { content := d } = .item v) : v.toDocument.Written ↔ ¬ d.NumbersOversized := by
  obtain ⟨length, views, hlength, hviews, hwritten⟩ := (readOff_of_decode h).written_iff
  simp only [Document.NumbersOversized, hlength, hviews, Except.ok.injEq, exists_eq_left',
    not_or, hwritten]

/-- With a usable id nothing but its view count keeps a written document from decoding. -/
theorem exists_item_iff_not_viewsRefused {d : Document} (h : d.Written) {id : String}
    (hid : d.usableId? = some id) :
    (∃ v, decode { content := d } = .item v) ↔ ¬ d.ViewsRefused := by
  obtain ⟨views, hviews, hdecode⟩ := decode_of_usableId? h hid
  cases hparse : ViewCount.parse views.toList with
  | ok count =>
      rw [hparse] at hdecode
      refine iff_of_true hdecode ?_
      intro hrefused
      obtain ⟨others, hothers, hrefused⟩ := hrefused
      obtain rfl := Except.ok.inj (hviews.symm.trans hothers)
      cases hparse.symm.trans hrefused
  | error fault =>
      rw [hparse] at hdecode
      apply iff_of_false
      · intro hitem
        obtain ⟨v, hitem⟩ := hitem
        cases hdecode.symm.trans hitem
      · exact not_not_intro ⟨views, hviews, ViewCount.refused_of_parse_eq_error hparse⟩

theorem usableId?_isSome_of_decode {d : Document} (h : d.Written) {v : Video}
    (hitem : decode { content := d } = .item v) : d.usableId?.isSome := by
  apply Option.ne_none_iff_isSome.1
  intro hnone
  cases (decode_of_written_of_usableId?_eq_none h hnone).symm.trans hitem

end Fragment

theorem Document.isObject_of_usableId? {d : Document} (h : d.usableId?.isSome) : d.isObject := by
  cases d with
  | object entries => rfl
  | _ => cases h

namespace Listing

/-- The page of a document that a search comes to. -/
def sectionPage (root : Document) : SearchPage :=
  { items := (Scan.sectionPayloads videoMarker root).filterMap video? }

/-- The videos are the decodings of the payloads with a usable id, one for each of
their places, in the lexicographic order of these. -/
def ListsUsable (root : Document) (videos : List Video) : Prop :=
  ∃ hosts : List Place,
    hosts.Pairwise (Prod.Lex (· < ·) (· < ·)) ∧
    (∀ place, place ∈ hosts ↔ (atPlace videoMarker root place).usableId?.isSome) ∧
    List.Forall₂ (fun place v =>
      Fragment.decode { content := atPlace videoMarker root place } = .item v) hosts videos

theorem items_sectionPage (root : Document) :
    (sectionPage root).items =
      (places videoMarker root).filterMap fun place => video? (atPlace videoMarker root place) := by
  rw [sectionPage, Scan.sectionPayloads_eq_map_places, List.filterMap_map]
  rfl

theorem video?_eq_some_iff {payload : Document} {v : Video} :
    video? payload = some v ↔ Fragment.decode { content := payload } = .item v := by
  constructor
  · exact Fragment.decode_of_item?
  · intro h
    rw [video?, Fragment.item?, h]

/-- The places of payloads that decode are those of payloads with a usable id, where
no view count is refused. -/
theorem listsUsable_of_not_viewsRefused {root : Document} (h : root.Written)
    (hviews : ∀ place, (atPlace videoMarker root place).usableId?.isSome →
      ¬ (atPlace videoMarker root place).ViewsRefused) :
    ListsUsable root (sectionPage root).items := by
  let payload := atPlace videoMarker root
  refine ⟨(places videoMarker root).filter fun place => (video? (payload place)).isSome,
    (Scan.pairwise_places videoMarker root).filter _, ?_, ?_⟩
  · intro place
    have hwritten : (payload place).Written := h.walk _
    rw [List.mem_filter, Scan.mem_places_iff]
    -- A payload without a usable id is no video, so none of the others decodes.
    constructor
    · intro hplace
      obtain ⟨v, hv⟩ := Option.isSome_iff_exists.1 hplace.2
      exact Fragment.usableId?_isSome_of_decode hwritten (video?_eq_some_iff.1 hv)
    · intro husable
      obtain ⟨id, hid⟩ := Option.isSome_iff_exists.1 husable
      obtain ⟨v, hitem⟩ :=
        (Fragment.exists_item_iff_not_viewsRefused hwritten hid).2 (hviews place husable)
      refine ⟨Document.isObject_of_usableId? husable, ?_⟩
      rw [video?_eq_some_iff.2 hitem]
      rfl
  · rw [items_sectionPage]
    apply (Scan.forall₂_filter_filterMap (fun place => video? (payload place)) _).imp
    intro place v
    exact video?_eq_some_iff.1

namespace ListsUsable

variable {root : Document} {videos : List Video} (h : ListsUsable root videos)
include h

theorem exists_video {place : Place}
    (husable : (atPlace videoMarker root place).usableId?.isSome) :
    ∃ v ∈ videos, Fragment.decode { content := atPlace videoMarker root place } = .item v := by
  obtain ⟨hosts, -, hmem, hdecode⟩ := h
  obtain ⟨i, hi, rfl⟩ := List.getElem_of_mem ((hmem place).2 husable)
  have hvideo : i < videos.length := hdecode.length_eq ▸ hi
  exact ⟨_, List.getElem_mem hvideo, hdecode.get hi hvideo⟩

theorem exists_place {v : Video} (hv : v ∈ videos) :
    ∃ place, (atPlace videoMarker root place).usableId?.isSome ∧
      Fragment.decode { content := atPlace videoMarker root place } = .item v := by
  obtain ⟨hosts, -, hmem, hdecode⟩ := h
  obtain ⟨i, hi, rfl⟩ := List.getElem_of_mem hv
  have hhost : i < hosts.length := hdecode.length_eq.symm ▸ hi
  exact ⟨hosts[i], (hmem _).1 (List.getElem_mem hhost), hdecode.get hhost hi⟩

end ListsUsable

/-- A search lists the payloads with a usable id exactly when none of them has a view
count that is refused. -/
theorem listsUsable_iff {root : Document} (h : root.Written) :
    ListsUsable root (sectionPage root).items ↔
      ∀ place, (atPlace videoMarker root place).usableId?.isSome →
        ¬ (atPlace videoMarker root place).ViewsRefused := by
  constructor
  · intro hlists place husable
    obtain ⟨v, -, hitem⟩ := hlists.exists_video husable
    obtain ⟨id, hid⟩ := Option.isSome_iff_exists.1 husable
    exact (Fragment.exists_item_iff_not_viewsRefused (h.walk _) hid).1 ⟨v, hitem⟩
  · exact listsUsable_of_not_viewsRefused h

/-- It does so on a page that can be written exactly when no number of theirs is oversized. -/
theorem listsUsable_and_written_iff {root : Document} (h : root.Written) :
    (ListsUsable root (sectionPage root).items ∧ (sectionPage root).toDocument.Written) ↔
      ∀ place, (atPlace videoMarker root place).usableId?.isSome →
        ¬ (atPlace videoMarker root place).NumbersOversized := by
  rw [SearchPage.written_toDocument_iff]
  constructor
  · rintro ⟨hlists, hwritten⟩ place husable
    obtain ⟨v, hv, hitem⟩ := hlists.exists_video husable
    exact (Fragment.written_iff_not_numbersOversized hitem).1 (hwritten v hv)
  · intro hsmall
    have hlists : ListsUsable root (sectionPage root).items :=
      listsUsable_of_not_viewsRefused h fun place husable hviews =>
        hsmall place husable hviews.numbersOversized
    refine ⟨hlists, ?_⟩
    intro v hv
    obtain ⟨place, husable, hitem⟩ := hlists.exists_place hv
    exact (Fragment.written_iff_not_numbersOversized hitem).2 (hsmall place husable)

/-! ## The run of a search -/

section Run

open KidsListing.Client (Operation)

variable (settings : Settings) (provider : Provider) {query : Option String}

omit provider in
theorem searchVideos_of_no_inquiry (h : (Operation.search query).inquiry? = none) :
    ∃ problem, ∀ provider, searchVideos settings provider query = .fail (.request problem) := by
  obtain ⟨problem, hrun⟩ := Operation.run_of_no_inquiry settings h
  refine ⟨problem, ?_⟩
  intro provider
  rw [searchVideos_eq_map, hrun]
  rfl

/-- A search makes the one post of its inquiry. -/
theorem posts_searchVideos :
    (searchVideos settings provider query).posts =
      ((Operation.search query).inquiry?.map (Inquiry.post settings)).toList := by
  rw [← Operation.posts_run settings provider, searchVideos_eq_map, Run.posts_map]
  cases hroot : (Operation.run settings provider (.search query)).outcome with
  | error fault =>
      rw [Run.bind_of_error hroot]
      rfl
  | ok root =>
      rw [Run.posts_bind_of_ok hroot, posts_decodeAll_fragments, List.append_nil]

theorem outcome_searchVideos {inquiry : Inquiry}
    (h : (Operation.search query).inquiry? = some inquiry) :
    (searchVideos settings provider query).outcome =
      (provider inquiry).document.map sectionPage := by
  have hrun := Operation.run_of_inquiry settings provider h
  rw [searchVideos_eq_map, Run.outcome_map, hrun]
  cases hroot : (provider inquiry).document with
  | error fault =>
      have hask : (Client.ask settings provider inquiry).outcome = .error fault := hroot
      rw [Run.bind_of_error hask]
      rfl
  | ok root =>
      have hask : (Client.ask settings provider inquiry).outcome = .ok root := hroot
      rw [Run.bind_of_ok hask, decodeAll_fragments]
      rfl

/-- What stands elsewhere in the document has no influence on a search. -/
theorem searchVideos_congr {other : Provider} {root otherRoot : Document}
    (hsame : SameSections videoMarker root otherRoot)
    (h : ∀ inquiry, (Operation.search query).inquiry? = some inquiry →
      provider.Delivers inquiry root ∧ other.Delivers inquiry otherRoot) :
    searchVideos settings provider query = searchVideos settings other query := by
  cases hinquiry : (Operation.search query).inquiry? with
  | none =>
      -- A refused search does not come to the provider at all.
      obtain ⟨problem, hfail⟩ := searchVideos_of_no_inquiry settings hinquiry
      rw [hfail, hfail]
  | some inquiry =>
      obtain ⟨hroot, hother⟩ := h inquiry hinquiry
      have hask : (Client.ask settings provider inquiry).outcome = .ok root := hroot
      have hotherAsk : (Client.ask settings other inquiry).outcome = .ok otherRoot := hother
      rw [searchVideos_eq_map, searchVideos_eq_map,
        Operation.run_of_inquiry settings provider hinquiry,
        Operation.run_of_inquiry settings other hinquiry, Run.bind_of_ok hask,
        Run.bind_of_ok hotherAsk, Scan.sectionPayloads_congr hsame]
      rfl

end Run

end Listing

end KidsListing
