import KidsListing.Proofs.Document.Descent
import KidsListing.Proofs.Video.SectionScan

/-!
# The section scan within the full scan

An object at a place of the section scan is the payload of a host, which is the entry at
that place.  The lexicographic order of places is the pre-order of these hosts, so what
the section scan gives comes in the same order in the full scan, which only gives more
before, between and after.  The marker may be any key, also one on the way to a place.
-/

namespace KidsListing.Scan

open KidsListing.Document (Branch Position Precedes node? children)

/-- The position of the list of sections. -/
def sectionsPosition : Position :=
  [.entry "contents", .entry "sectionListRenderer", .entry "contents"]

/-- The way from a section to the list of its entries. -/
def entriesPosition : Position :=
  [.entry "itemSectionRenderer", .entry "contents"]

/-- The position of the entry at a place. -/
def hostPosition (place : Place) : Position :=
  sectionsPosition ++ .element place.1 :: (entriesPosition ++ [.element place.2])

theorem placePath_eq (place : Place) :
    placePath place = (hostPosition place).map Branch.step :=
  rfl

theorem atPlace_eq_step (marker : String) (root : Document) (place : Place) :
    atPlace marker root place =
      ((root.node? (hostPosition place)).getD .null).step (.key marker) := by
  rw [atPlace, Document.walk_append, placePath_eq, Document.walk_branches]
  rfl

/-- An object at a place is the payload of the host there. -/
theorem hosts_of_isObject {marker : String} {root : Document} {place : Place}
    (h : (atPlace marker root place).isObject) :
    Hosts marker root (hostPosition place) (atPlace marker root place) := by
  rw [atPlace_eq_step] at h ⊢
  rw [← payloadAt?_eq_some_iff, payloadAt?]
  cases hnode : root.node? (hostPosition place) with
  | none =>
      rw [hnode] at h
      cases h
  | some d =>
      rw [hnode, Option.getD_some] at h
      rw [Option.bind_some, Option.getD_some, ← Option.mem_toList, toList_payload?_eq,
        entryPayload, if_pos h]
      exact List.mem_singleton_self _

theorem isSome_node?_hostPosition {marker : String} {root : Document} {place : Place}
    (h : (atPlace marker root place).isObject) :
    (root.node? (hostPosition place)).isSome := by
  obtain ⟨entries, hnode, -⟩ := hosts_of_isObject h
  rw [hnode]
  rfl

/-- The order of places is the order of their positions. -/
theorem precedes_hostPosition {root : Document} {place other : Place}
    (hlt : Prod.Lex (· < ·) (· < ·) place other)
    (hother : (root.node? (hostPosition other)).isSome) :
    root.Precedes (hostPosition place) (hostPosition other) := by
  cases hlt with
  | left j l hik => exact Document.precedes_of_lt hik hother
  | right i hjl =>
      -- In one section the positions part only below the list of its entries.
      have hfront (j : Nat) : hostPosition (i, j) =
          (sectionsPosition ++ .element i :: entriesPosition) ++ [.element j] := rfl
      rw [hfront] at hother ⊢
      exact Document.precedes_of_lt hjl hother

theorem pairwise_map_hostPosition (marker : String) (root : Document) :
    ((places marker root).map hostPosition).Pairwise root.Precedes := by
  rw [List.pairwise_map]
  apply (pairwise_places marker root).imp_of_mem
  intro place other _ hother hlt
  exact precedes_hostPosition hlt (isSome_node?_hostPosition (mem_places_iff.1 hother))

/-- The places of the section scan are among the hosts, in their order. -/
theorem map_hostPosition_sublist_hosts (marker : String) {root : Document}
    (h : root.WellKeyed) :
    ((places marker root).map hostPosition).Sublist (hosts marker root) := by
  let own := (places marker root).map hostPosition
  have hmem : ∀ p ∈ own, p ∈ hosts marker root := by
    intro p hp
    obtain ⟨place, hplace, rfl⟩ := List.mem_map.1 hp
    exact (mem_hosts_iff h).2 ⟨_, hosts_of_isObject (mem_places_iff.1 hplace)⟩
  have hown : own = (hosts marker root).filter fun p => decide (p ∈ own) := by
    apply Document.eq_of_pairwise_precedes h (pairwise_map_hostPosition marker root)
      ((pairwise_hosts marker h).filter _)
    intro p
    rw [List.mem_filter, decide_eq_true_eq]
    exact (and_iff_right_of_imp (hmem p)).symm
  change own.Sublist _
  rw [hown]
  exact List.filter_sublist

theorem sectionPayloads_eq_filterMap (marker : String) (root : Document) :
    sectionPayloads marker root =
      ((places marker root).map hostPosition).filterMap (payloadAt? marker root) := by
  have hgives : ∀ place ∈ places marker root,
      payloadAt? marker root (hostPosition place) = some (atPlace marker root place) :=
    fun place hplace =>
      payloadAt?_eq_some_iff.2 (hosts_of_isObject (mem_places_iff.1 hplace))
  rw [sectionPayloads_eq_map_places, List.filterMap_map, ← List.filterMap_eq_map]
  apply List.filterMap_congr
  intro place hplace
  exact (hgives place hplace).symm

theorem payloads_eq_filterMap_hosts (marker : String) {root : Document} (h : root.WellKeyed) :
    payloads marker root = (hosts marker root).filterMap (payloadAt? marker root) := by
  rw [payloads_eq_filterMap_positions marker h, hosts, List.filterMap_filter]
  apply List.filterMap_congr
  intro p _
  cases payloadAt? marker root p <;> rfl

/-- What the section scan gives, the full scan gives in the same order. -/
theorem sectionPayloads_sublist_payloads (marker : String) {root : Document}
    (h : root.WellKeyed) :
    (sectionPayloads marker root).Sublist (payloads marker root) := by
  rw [sectionPayloads_eq_filterMap, payloads_eq_filterMap_hosts marker h]
  exact (map_hostPosition_sublist_hosts marker h).filterMap _

/-- The two scans of a document, the one by places and the other by hosts, where each
place is that of a host. -/
structure Embeds (marker : String) (root : Document) (places : List Place)
    (hosts : List Position) : Prop where
  /-- The section scan gives what stands at the places of objects, in the
  lexicographic order of section and entry. -/
  lexicographic : places.Pairwise (Prod.Lex (· < ·) (· < ·))
  objects : ∀ place, place ∈ places ↔ (atPlace marker root place).isObject
  sections : sectionPayloads marker root = places.map (atPlace marker root)
  /-- The full scan gives the payloads of the hosts, in pre-order. -/
  preOrder : hosts.Pairwise root.Precedes
  hosting : ∀ p, p ∈ hosts ↔ ∃ payload, Hosts marker root p payload
  everywhere : List.Forall₂ (Hosts marker root) hosts (payloads marker root)
  /-- The places are among the hosts, and there they give the same. -/
  among : (places.map hostPosition).Sublist hosts
  same : ∀ place ∈ places, Hosts marker root (hostPosition place) (atPlace marker root place)

/-- The section scan gives the objects at its places, in their order, and nothing else;
and position by position it is a part of the full scan in the order of the latter. -/
theorem sectionPayloads_of_places_among_hosts (marker : String) {root : Document}
    (h : root.WellKeyed) :
    (∃ (places : List Place) (hosts : List Position), Embeds marker root places hosts) ∧
      (sectionPayloads marker root).Sublist (payloads marker root) := by
  refine ⟨⟨places marker root, hosts marker root, ?_⟩, sectionPayloads_sublist_payloads marker h⟩
  have heverywhere : List.Forall₂ (Hosts marker root) (hosts marker root)
      (payloads marker root) := by
    rw [payloads_eq_filterMap_positions marker h]
    apply (forall₂_filter_filterMap (payloadAt? marker root) root.positions).imp
    intro p payload
    exact payloadAt?_eq_some_iff.1
  exact {
    lexicographic := pairwise_places marker root
    objects := fun place => mem_places_iff
    sections := sectionPayloads_eq_map_places marker root
    preOrder := pairwise_hosts marker h
    hosting := fun p => mem_hosts_iff h
    everywhere := heverywhere
    among := map_hostPosition_sublist_hosts marker h
    same := fun place hplace => hosts_of_isObject (mem_places_iff.1 hplace) }

/-- A search result whose entries are marked by a key on the way to them; the second
section has no list of entries, and in the third one the first entry is malformed. -/
def markedByContents : Document :=
  .object [("contents", .object [("sectionListRenderer", .object [("contents", .list [
    .object [("itemSectionRenderer", .object [("contents", .list [
      .object [("contents", .object [("id", .int 1), ("more", .object [
        ("contents", .object [("id", .int 2)])])])]])])],
    .object [("itemSectionRenderer", .object [("contents", .object [("id", .int 3)])])],
    .object [("itemSectionRenderer", .object [("contents", .list [
      .null, .object [("contents", .object [("id", .int 4)])]])])]])])])]

theorem wellKeyed_markedByContents : markedByContents.WellKeyed := by
  simp [markedByContents, Document.WellKeyed, Document.WellKeyedEntries,
    Document.WellKeyedElements]

/-- The full scan gives what holds the sections too, what is nested in the first payload
and what the second section has in place of a list. -/
theorem sectionPayloads_markedByContents_among_hosts :
    markedByContents.WellKeyed ∧
      (sectionPayloads "contents" markedByContents).map (·.step "id") = [.int 1, .int 4] ∧
      (payloads "contents" markedByContents).map (·.step "id") =
        [.null, .int 1, .int 2, .int 3, .int 4] ∧
      (∃ (places : List Place) (hosts : List Position),
          Embeds "contents" markedByContents places hosts) ∧
        (sectionPayloads "contents" markedByContents).Sublist
          (payloads "contents" markedByContents) :=
  ⟨wellKeyed_markedByContents, by rfl, by rfl,
    sectionPayloads_of_places_among_hosts "contents" wellKeyed_markedByContents⟩

end KidsListing.Scan
