import KidsListing.Proofs.Feed.Listings
import KidsListing.Proofs.Video.Pruning
import KidsListing.Proofs.Video.Reordering

/-!
# What the listings are indifferent to

A listing is made of what a document of the provider says, not of the way in
which it says it.  The order of the entries of objects leaves a search page as
it is and can only rearrange the other listings.  Null entries make no
difference to any listing.
-/

namespace KidsListing.Listing

open KidsListing.Document (Reordered likeness_prune payloads_prune sectionPayloads_prune)
open KidsListing.Scan (payloads sectionPayloads videoMarker)

/-! ## Two providers -/

section Providers

variable {d e : Document} (settings : Settings) {first second : Provider}

/-- Documents that are read alike make the same search page. -/
theorem searchVideos_of_alike {Alike : Document → Document → Prop} (likeness : Likeness Alike)
    (h : Alike d e) {query : String} (hquery : query ≠ "")
    (hlength : query.length ≤ maxQueryLength) (hfirst : first.Delivers (.search query) d)
    (hsecond : second.Delivers (.search query) e) :
    ∃ page, (searchVideos settings first (some query)).outcome = .ok page ∧
      (searchVideos settings second (some query)).outcome = .ok page := by
  have hitems : (sectionPayloads videoMarker d).filterMap video? =
      (sectionPayloads videoMarker e).filterMap video? :=
    Likeness.filterMap_eq (fun _ _ halike => likeness.item?_eq halike)
      (likeness.sectionPayloads h videoMarker)
  refine ⟨_, outcome_searchVideos_of_delivers hquery hlength hfirst, ?_⟩
  rw [outcome_searchVideos_of_delivers hquery hlength hsecond, hitems]

theorem pageVideos_of_reordered (hkeyed : d.WellKeyed) (h : Reordered d e) {id : String}
    (hid : id ≠ "") (hfirst : first.Delivers (.browse id) d)
    (hsecond : second.Delivers (.browse id) e) :
    ∃ videos others, (pageVideos settings first id).outcome = .ok videos ∧
      (pageVideos settings second id).outcome = .ok others ∧ videos.Perm others := by
  refine ⟨_, _, outcome_pageVideos_of_delivers hid hfirst,
    outcome_pageVideos_of_delivers hid hsecond, ?_⟩
  apply Reordered.perm_payloads videoMarker _ h hkeyed
  exact fun _ _ halike => Reordered.likeness.item?_eq halike

theorem pageVideos_of_prune (hkeyed : d.WellKeyed) {id : String} (hid : id ≠ "")
    (hfirst : first.Delivers (.browse id) d) (hsecond : second.Delivers (.browse id) d.prune) :
    ∃ videos, (pageVideos settings first id).outcome = .ok videos ∧
      (pageVideos settings second id).outcome = .ok videos := by
  have hpruned : List.Forall₂ (fun x y => x.WellKeyed ∧ y = x.prune) (payloads videoMarker d)
      (payloads videoMarker d.prune) := by
    rw [payloads_prune videoMarker hkeyed, List.forall₂_map_right_iff, List.forall₂_same]
    exact fun payload hpayload => ⟨Scan.wellKeyed_of_mem_payloads hkeyed hpayload, rfl⟩
  have hitems : (payloads videoMarker d).filterMap video? =
      (payloads videoMarker d.prune).filterMap video? :=
    Likeness.filterMap_eq (fun _ _ halike => likeness_prune.item?_eq halike) hpruned
  refine ⟨_, outcome_pageVideos_of_delivers hid hfirst, ?_⟩
  rw [outcome_pageVideos_of_delivers hid hsecond, hitems]

end Providers

/-! ## All listings -/

/-- Of two documents that differ in the order of entries alone, a search that is not
refused makes the same page, and the home page and the channels have the same
videos, each as often, in some order. -/
theorem listings_unmoved_by_reordering {d e : Document} (hkeyed : d.WellKeyed)
    (h : Reordered d e) (settings : Settings) (first second : Provider) :
    (∀ query : String, query ≠ "" → query.length ≤ maxQueryLength →
      first.Delivers (.search query) d → second.Delivers (.search query) e →
      ∃ page, (searchVideos settings first (some query)).outcome = .ok page ∧
        (searchVideos settings second (some query)).outcome = .ok page) ∧
    (first.Delivers (.browse homePage) d → second.Delivers (.browse homePage) e →
      ∃ videos others, (homeVideos settings first).outcome = .ok videos ∧
        (homeVideos settings second).outcome = .ok others ∧ videos.Perm others) ∧
    ∀ channel : String, channel ≠ "" →
      first.Delivers (.browse channel) d → second.Delivers (.browse channel) e →
      ∃ videos others, (channelVideos settings first channel).outcome = .ok videos ∧
        (channelVideos settings second channel).outcome = .ok others ∧
        videos.Perm others := by
  refine ⟨?_, ?_, ?_⟩
  · intro query hquery hlength hfirst hsecond
    exact searchVideos_of_alike settings Reordered.likeness ⟨hkeyed, h⟩ hquery hlength hfirst
      hsecond
  · exact pageVideos_of_reordered settings hkeyed h (by decide)
  · intro channel hchannel
    exact pageVideos_of_reordered settings hkeyed h hchannel

/-- A provider that answers every inquiry with one document. -/
def answering (root : Document) : Provider :=
  fun _ => .answered 200 (.document root)

theorem delivers_answering (root : Document) (inquiry : Inquiry) :
    (answering root).Delivers inquiry root := rfl

/-- The contents of a search result with one video. -/
def resultOf (video : List (String × Document)) : Document :=
  .object [("sectionListRenderer", .object [("contents", .list [
    .object [("itemSectionRenderer", .object [("contents", .list [
      .object [(videoMarker, .object video)]])])]])])]

/-- A video beside the results. -/
def beside : Document :=
  .object [(videoMarker, .object [("videoId", .text "b")])]

def resultFirst : Document :=
  .object [("contents", resultOf [("videoId", .text "a"), ("title", .null)]),
    ("header", beside)]

def resultLast : Document :=
  .object [("header", beside),
    ("contents", resultOf [("title", .null), ("videoId", .text "a")])]

theorem wellKeyed_resultFirst : resultFirst.WellKeyed := by
  simp [resultFirst, resultOf, beside, Document.WellKeyed, Document.WellKeyedEntries,
    Document.WellKeyedElements]

theorem reordered_resultOf {video others : List (String × Document)}
    (h : Reordered (.object video) (.object others)) :
    Reordered (resultOf video) (resultOf others) := by
  have hinside : Reordered (.object [(videoMarker, .object video)])
      (.object [(videoMarker, .object others)]) := .entry videoMarker h (.refl _)
  have hsection := Reordered.entry "itemSectionRenderer"
    (.entry "contents" (.element hinside (.refl (.list []))) (.refl (.object [])))
    (.refl (.object []))
  exact .entry "sectionListRenderer"
    (.entry "contents" (.element hsection (.refl (.list []))) (.refl (.object [])))
    (.refl (.object []))

/-- The entries of the root and those of the result itself are put in another
order. -/
theorem reordered_resultFirst_resultLast : Reordered resultFirst resultLast :=
  .trans (Reordered.object_of_perm (.swap _ _ []))
    (.entry "header" (.refl beside)
      (.entry "contents" (reordered_resultOf (Reordered.object_of_perm (.swap _ _ [])))
        (.refl (.object []))))

/-- A search lists the result on one page; at home both videos are listed, in either order. -/
theorem listings_resultFirst_unmoved :
    resultFirst.WellKeyed ∧ Reordered resultFirst resultLast ∧
      (∃ page, (searchVideos {} (answering resultFirst) (some "q")).outcome = .ok page ∧
        (searchVideos {} (answering resultLast) (some "q")).outcome = .ok page ∧
        page.items.map Video.url = ["/watch?v=a"]) ∧
      ∃ videos others, (homeVideos {} (answering resultFirst)).outcome = .ok videos ∧
        (homeVideos {} (answering resultLast)).outcome = .ok others ∧ videos.Perm others ∧
        videos.map Video.url = ["/watch?v=a", "/watch?v=b"] ∧
        others.map Video.url = ["/watch?v=b", "/watch?v=a"] := by
  obtain ⟨hsearch, hhome, -⟩ := listings_unmoved_by_reordering wellKeyed_resultFirst
    reordered_resultFirst_resultLast {} (answering resultFirst) (answering resultLast)
  refine ⟨wellKeyed_resultFirst, reordered_resultFirst_resultLast, ?_, ?_⟩
  · obtain ⟨page, hfirst, hlast⟩ :=
      hsearch "q" (by decide) (by decide) (delivers_answering _ _) (delivers_answering _ _)
    refine ⟨page, hfirst, hlast, ?_⟩
    cases hfirst
    rfl
  · obtain ⟨videos, others, hfirst, hlast, hperm⟩ :=
      hhome (delivers_answering _ _) (delivers_answering _ _)
    refine ⟨videos, others, hfirst, hlast, hperm, ?_⟩
    cases hfirst
    cases hlast
    exact ⟨rfl, rfl⟩

/-- Without its null entries a document has the same payloads, without their null
entries and in the same order, and every listing of it has the same videos. -/
theorem listings_unmoved_by_pruning {d : Document} (hkeyed : d.WellKeyed) :
    (∀ marker : String, payloads marker d.prune = (payloads marker d).map Document.prune ∧
      sectionPayloads marker d.prune = (sectionPayloads marker d).map Document.prune) ∧
    ∀ (settings : Settings) (first second : Provider),
      (∀ query : String, query ≠ "" → query.length ≤ maxQueryLength →
        first.Delivers (.search query) d → second.Delivers (.search query) d.prune →
        ∃ page, (searchVideos settings first (some query)).outcome = .ok page ∧
          (searchVideos settings second (some query)).outcome = .ok page) ∧
      (first.Delivers (.browse homePage) d → second.Delivers (.browse homePage) d.prune →
        ∃ videos, (homeVideos settings first).outcome = .ok videos ∧
          (homeVideos settings second).outcome = .ok videos) ∧
      ∀ channel : String, channel ≠ "" →
        first.Delivers (.browse channel) d → second.Delivers (.browse channel) d.prune →
        ∃ videos, (channelVideos settings first channel).outcome = .ok videos ∧
          (channelVideos settings second channel).outcome = .ok videos := by
  refine ⟨fun marker => ?_, fun settings first second => ⟨?_, ?_, ?_⟩⟩
  · exact ⟨payloads_prune marker hkeyed, sectionPayloads_prune marker hkeyed⟩
  · intro query hquery hlength hfirst hsecond
    exact searchVideos_of_alike settings likeness_prune ⟨hkeyed, rfl⟩ hquery hlength hfirst
      hsecond
  · exact pageVideos_of_prune settings hkeyed (by decide)
  · intro channel hchannel
    exact pageVideos_of_prune settings hkeyed hchannel

/-- With the null title and without it a search lists the result, and at home both videos are
listed. -/
theorem listings_resultFirst_unpruned :
    resultFirst.WellKeyed ∧ payloads videoMarker resultFirst.prune =
        [.object [("videoId", .text "a")], .object [("videoId", .text "b")]] ∧
      payloads videoMarker resultFirst.prune =
        (payloads videoMarker resultFirst).map Document.prune ∧
      (∃ page, (searchVideos {} (answering resultFirst) (some "q")).outcome = .ok page ∧
        (searchVideos {} (answering resultFirst.prune) (some "q")).outcome = .ok page ∧
        page.items.map Video.url = ["/watch?v=a"]) ∧
      ∃ videos, (homeVideos {} (answering resultFirst)).outcome = .ok videos ∧
        (homeVideos {} (answering resultFirst.prune)).outcome = .ok videos ∧
        videos.map Video.url = ["/watch?v=a", "/watch?v=b"] := by
  obtain ⟨hscans, hlistings⟩ := listings_unmoved_by_pruning wellKeyed_resultFirst
  obtain ⟨hsearch, hhome, -⟩ :=
    hlistings {} (answering resultFirst) (answering resultFirst.prune)
  refine ⟨wellKeyed_resultFirst, by rfl, (hscans videoMarker).1, ?_, ?_⟩
  · obtain ⟨page, hfirst, hpruned⟩ :=
      hsearch "q" (by decide) (by decide) (delivers_answering _ _) (delivers_answering _ _)
    refine ⟨page, hfirst, hpruned, ?_⟩
    cases hfirst
    rfl
  · obtain ⟨videos, hfirst, hpruned⟩ := hhome (delivers_answering _ _) (delivers_answering _ _)
    refine ⟨videos, hfirst, hpruned, ?_⟩
    cases hfirst
    rfl

end KidsListing.Listing
