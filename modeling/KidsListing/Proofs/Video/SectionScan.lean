import KidsListing.Proofs.Document.Within
import KidsListing.Proofs.Video.Scan
import Mathlib.Data.List.Sort

/-!
# The places of the section scan

The section scan goes to fixed places of a document, each given by the index of
a section and the index of an entry in it.  It gives what stands there, in the
lexicographic order of these pairs, and nothing else; so two documents with the
same there are the same to it.  Whatever it gives is a payload that the full scan
may come upon as well.
-/

namespace KidsListing.Scan

open KidsListing.Document (Step Within)

/-! ## Payloads anywhere -/

/-- A payload stands under the marker in an object within the document. -/
def Marked (marker : String) (root payload : Document) : Prop :=
  ∃ entries, Within (.object entries) root ∧
    Document.lookup marker entries = some payload ∧ payload.isObject

theorem marked_of_payload? {marker : String} {d root payload : Document} (hd : Within d root)
    (h : payload? marker d = some payload) : Marked marker root payload := by
  obtain ⟨entries, rfl, hlookup, hobject⟩ := payload?_eq_some_iff.1 h
  exact ⟨entries, hd, hlookup, hobject⟩

/-- The full scan gives marked payloads only. -/
theorem marked_of_mem_payloads {marker : String} {root payload : Document}
    (h : payload ∈ payloads marker root) : Marked marker root payload := by
  induction root using Document.childInduction with
  | step root ih =>
      rw [payloads_eq, List.mem_append] at h
      rcases h with hown | hbelow
      · exact marked_of_payload? .refl (Option.mem_toList.1 hown)
      · obtain ⟨c, hc, hpayload⟩ := List.mem_flatMap.1 hbelow
        obtain ⟨entries, hwithin, hmarked⟩ := ih c hc hpayload
        exact ⟨entries, hwithin.tail (List.mem_map_of_mem hc), hmarked⟩

/-- An object at the end of a path that ends in the marker is marked. -/
theorem marked_of_walk {marker : String} {root : Document} {path : List Step}
    (h : (root.walk (path ++ [.key marker])).isObject) :
    Marked marker root (root.walk (path ++ [.key marker])) := by
  rw [Document.walk_append] at h ⊢
  have hpayload : payload? marker (root.walk path) = some ((root.walk path).step marker) := by
    rw [← Option.mem_toList, toList_payload?_eq, entryPayload]
    exact (if_pos h).symm ▸ List.mem_singleton_self _
  have hhost : root.walk path ≠ .null := by
    intro hnull
    rw [hnull] at hpayload
    cases hpayload
  exact marked_of_payload? (Document.within_of_walk hhost) hpayload

/-! ## Places -/

/-- The index of a section and that of an entry in it. -/
abbrev Place := Nat × Nat

/-- The way to the entry at a place. -/
def placePath (place : Place) : List Step := [
  "contents", "sectionListRenderer", "contents", .index place.1,
  "itemSectionRenderer", "contents", .index place.2]

/-- What stands under the marker at a place. -/
def atPlace (marker : String) (root : Document) (place : Place) : Document :=
  root.walk (placePath place ++ [.key marker])

def sectionAt (root : Document) (i : Nat) : Document :=
  (root.walk ["contents", "sectionListRenderer", "contents"]).step (.index i)

theorem atPlace_eq (marker : String) (root : Document) (i j : Nat) :
    atPlace marker root (i, j) =
      (((sectionAt root i).walk ["itemSectionRenderer", "contents"]).step (.index j)).step
        marker :=
  rfl

theorem elements_eq_map_range (d : Document) :
    elements d = (List.range (elements d).length).map fun i : Nat => d.step (.index i) := by
  cases d with
  | list all =>
      apply List.ext_getElem
      · simp
      · intro i hi _
        simp only [elements] at hi
        simp [elements, Document.step, Document.element?, hi]
  | _ => rfl

/-- Beyond the elements of a list there is null. -/
theorem step_index_of_length_le {d : Document} {i : Nat} (h : (elements d).length ≤ i) :
    d.step (.index i) = .null := by
  cases d with
  | list all =>
      simp only [elements] at h
      simp [Document.step, Document.element?, h]
  | _ => rfl

/-- The places at which an object stands, in the lexicographic order. -/
def places (marker : String) (root : Document) : List Place :=
  (List.range (sections root).length).flatMap fun i : Nat =>
    ((List.range (sectionEntries (sectionAt root i)).length).filter fun j : Nat =>
      (atPlace marker root (i, j)).isObject).map fun j => (i, j)

theorem pairwise_places (marker : String) (root : Document) :
    (places marker root).Pairwise (Prod.Lex (· < ·) (· < ·)) := by
  rw [places, List.pairwise_flatMap]
  constructor
  · intro i _
    rw [List.pairwise_map]
    exact (List.pairwise_lt_range.filter _).imp fun h => Prod.Lex.right _ h
  · apply List.pairwise_lt_range.imp
    intro i k hik p hp q hq
    obtain ⟨j, _, rfl⟩ := List.mem_map.1 hp
    obtain ⟨l, _, rfl⟩ := List.mem_map.1 hq
    exact Prod.Lex.left _ _ hik

theorem mem_places_iff {marker : String} {root : Document} {place : Place} :
    place ∈ places marker root ↔ (atPlace marker root place).isObject := by
  obtain ⟨i, j⟩ := place
  constructor
  · intro h
    obtain ⟨_, -, h⟩ := List.mem_flatMap.1 h
    obtain ⟨_, h, heq⟩ := List.mem_map.1 h
    cases heq
    exact (List.mem_filter.1 h).2
  · intro h
    have hsection : i < (sections root).length := by
      apply Nat.lt_of_not_le
      intro hle
      rw [atPlace_eq, sectionAt, step_index_of_length_le hle] at h
      cases h
    have hentry : j < (sectionEntries (sectionAt root i)).length := by
      apply Nat.lt_of_not_le
      intro hle
      rw [atPlace_eq, step_index_of_length_le hle] at h
      cases h
    refine List.mem_flatMap.2 ⟨i, List.mem_range.2 hsection, List.mem_map.2 ⟨j, ?_, rfl⟩⟩
    exact List.mem_filter.2 ⟨List.mem_range.2 hentry, h⟩

theorem flatMap_ite_eq_map_filter {α β : Type} (p : α → Bool) (f : α → β) (l : List α) :
    (l.flatMap fun a => if p a then [f a] else []) = (l.filter p).map f := by
  induction l with
  | nil => rfl
  | cons a l ih =>
      rw [List.flatMap_cons, ih]
      cases h : p a <;> simp [h]

/-- The section scan gives what stands at the places, in their order. -/
theorem sectionPayloads_eq_map_places (marker : String) (root : Document) :
    sectionPayloads marker root = (places marker root).map (atPlace marker root) := by
  rw [sectionPayloads, sections, elements_eq_map_range, List.flatMap_map, places,
    List.map_flatMap]
  apply List.flatMap_congr
  intro i _
  rw [sectionEntries, elements_eq_map_range, List.flatMap_map, List.map_map]
  exact flatMap_ite_eq_map_filter _ _ _

theorem marked_of_mem_sectionPayloads {marker : String} {root payload : Document}
    (h : payload ∈ sectionPayloads marker root) : Marked marker root payload := by
  rw [sectionPayloads_eq_map_places] at h
  obtain ⟨place, hplace, rfl⟩ := List.mem_map.1 h
  exact marked_of_walk (mem_places_iff.1 hplace)

/-- The lexicographic order of a set of places is unique. -/
theorem eq_places {marker : String} {root : Document} {others : List Place}
    (hordered : others.Pairwise (Prod.Lex (· < ·) (· < ·)))
    (hmem : ∀ place, place ∈ others ↔ (atPlace marker root place).isObject) :
    others = places marker root := by
  apply hordered.eq_of_mem_iff (pairwise_places marker root)
  intro place
  rw [hmem, mem_places_iff]

/-- Documents with the same objects at all places. -/
def SameSections (marker : String) (root other : Document) : Prop :=
  ∀ place, (atPlace marker root place).isObject ∨ (atPlace marker other place).isObject →
    atPlace marker root place = atPlace marker other place

/-- What stands elsewhere has no influence on the section scan. -/
theorem sectionPayloads_congr {marker : String} {root other : Document}
    (h : SameSections marker root other) :
    sectionPayloads marker root = sectionPayloads marker other := by
  have hplaces : places marker root = places marker other := by
    apply eq_places (pairwise_places marker root)
    intro place
    rw [mem_places_iff]
    constructor
    · intro hroot
      rwa [← h place (.inl hroot)]
    · intro hother
      rwa [h place (.inr hother)]
  rw [sectionPayloads_eq_map_places, sectionPayloads_eq_map_places, hplaces]
  apply List.map_congr_left
  intro place hplace
  exact h place (.inr (mem_places_iff.1 hplace))

end KidsListing.Scan
