import KidsListing.Proofs.Document.Position
import KidsListing.Video.Scan
import Mathlib.Data.List.Forall2

/-!
# The order of the full scan

A host is a position at which an object has an object under the marker.  The full
scan gives the payload of every host once, in the pre-order of the hosts; that
one host may stand inside the payload of another makes no difference.
-/

namespace KidsListing.Scan

open KidsListing.Document (Position children node? positions Precedes)

/-- The payload of the object at a position. -/
def Hosts (marker : String) (root : Document) (p : Position) (payload : Document) : Prop :=
  ∃ entries, root.node? p = some (.object entries) ∧
    Document.lookup marker entries = some payload ∧ payload.isObject

def payload? (marker : String) : Document → Option Document
  | .object entries => (Document.lookup marker entries).filter Document.isObject
  | _ => none

def payloadAt? (marker : String) (root : Document) (p : Position) : Option Document :=
  (root.node? p).bind (payload? marker)

theorem payload?_eq_some_iff {marker : String} {d payload : Document} :
    payload? marker d = some payload ↔
      ∃ entries, d = .object entries ∧ Document.lookup marker entries = some payload ∧
        payload.isObject := by
  cases d <;> simp [payload?, Option.filter_eq_some_iff]

theorem payloadAt?_eq_some_iff {marker : String} {root payload : Document} {p : Position} :
    payloadAt? marker root p = some payload ↔ Hosts marker root p payload := by
  simp only [payloadAt?, Option.bind_eq_some_iff, payload?_eq_some_iff, Hosts]
  constructor
  · rintro ⟨_, hnode, entries, rfl, hpayload⟩
    exact ⟨entries, hnode, hpayload⟩
  · rintro ⟨entries, hnode, hpayload⟩
    exact ⟨_, hnode, entries, rfl, hpayload⟩

theorem hosted_eq (marker : String) (entries : List (String × Document)) :
    hosted marker entries = (payload? marker (.object entries)).toList := by
  rw [hosted, payload?]
  cases Document.lookup marker entries with
  | none => rfl
  | some payload => cases h : payload.isObject <;> simp [Option.filter, h]

theorem elementPayloads_eq (marker : String) (elements : List Document) :
    elementPayloads marker elements = elements.flatMap (payloads marker) := by
  induction elements with
  | nil => rfl
  | cons x rest ih => rw [elementPayloads, ih, List.flatMap_cons]

theorem entryPayloads_eq (marker : String) (entries : List (String × Document)) :
    entryPayloads marker entries = entries.flatMap fun entry => payloads marker entry.2 := by
  induction entries with
  | nil => rfl
  | cons entry rest ih => rw [entryPayloads, ih, List.flatMap_cons]

/-- The payloads that stand below a document. -/
def inner (marker : String) (d : Document) : List Document :=
  d.children.flatMap fun c => payloads marker c.2

theorem inner_list (marker : String) (elements : List Document) :
    inner marker (.list elements) = elements.flatMap (payloads marker) := by
  conv_rhs => rw [← Document.map_snd_children_list elements, List.flatMap_map]
  rfl

theorem inner_object (marker : String) (entries : List (String × Document)) :
    inner marker (.object entries) = entries.flatMap fun entry => payloads marker entry.2 := by
  simp [inner, children, List.flatMap_map]

/-- A scan takes the payload of the root and then scans its children in order. -/
theorem payloads_eq (marker : String) (d : Document) :
    payloads marker d =
      (payload? marker d).toList ++ d.children.flatMap fun c => payloads marker c.2 := by
  cases d with
  | list elements =>
      rw [payloads, elementPayloads_eq, ← inner_list]
      rfl
  | object entries =>
      rw [payloads, hosted_eq, entryPayloads_eq, ← inner_object]
      rfl
  | _ => rfl

theorem toList_payload?_eq (marker : String) (d : Document) :
    (payload? marker d).toList = entryPayload marker d := by
  cases d with
  | object entries =>
      rw [← hosted_eq, hosted, entryPayload, Document.step]
      cases Document.lookup marker entries <;> rfl
  | _ => rfl

theorem payloads_eq_append_inner (marker : String) (d : Document) :
    payloads marker d = entryPayload marker d ++ inner marker d := by
  rw [payloads_eq, toList_payload?_eq, inner]

/-- A scan goes through all positions in order. -/
theorem payloads_eq_filterMap_positions (marker : String) {root : Document}
    (h : root.WellKeyed) :
    payloads marker root = root.positions.filterMap (payloadAt? marker root) := by
  induction root using Document.childInduction with
  | step root ih =>
      have hroot : payloadAt? marker root [] = payload? marker root := by
        simp [payloadAt?, node?]
      have hbelow : root.children.flatMap (fun c => payloads marker c.2) =
          (root.children.flatMap fun c => c.2.positions.map (c.1 :: ·)).filterMap
            (payloadAt? marker root) := by
        rw [List.filterMap_flatMap]
        apply List.flatMap_congr
        intro c hc
        rw [ih c hc (((Document.wellKeyed_iff root).1 h).2 c hc), List.filterMap_map]
        congr 1
        funext p
        simp only [Function.comp, payloadAt?, Document.node?_cons_of_mem h hc p]
      rw [payloads_eq, Document.positions_eq, hbelow, List.filterMap_cons, hroot]
      cases payload? marker root <;> rfl

/-- The positions of the hosts, in pre-order. -/
def hosts (marker : String) (root : Document) : List Position :=
  root.positions.filter fun p => (payloadAt? marker root p).isSome

theorem mem_hosts_iff {marker : String} {root : Document} (h : root.WellKeyed) {p : Position} :
    p ∈ hosts marker root ↔ ∃ payload, Hosts marker root p payload := by
  simp only [hosts, List.mem_filter, Option.isSome_iff_exists, payloadAt?_eq_some_iff]
  constructor
  · exact fun hp => hp.2
  · rintro ⟨payload, entries, hnode, hpayload⟩
    refine ⟨(Document.mem_positions_iff h).2 ?_, payload, entries, hnode, hpayload⟩
    rw [hnode]
    rfl

theorem pairwise_hosts (marker : String) {root : Document} (h : root.WellKeyed) :
    (hosts marker root).Pairwise root.Precedes :=
  (Document.pairwise_positions h).filter _

theorem forall₂_filter_filterMap {α β : Type} (f : α → Option β) (l : List α) :
    List.Forall₂ (fun a b => f a = some b) (l.filter fun a => (f a).isSome)
      (l.filterMap f) := by
  induction l with
  | nil => exact .nil
  | cons a l ih =>
      cases hf : f a with
      | none => simpa [hf] using ih
      | some b => simpa [hf] using ih

/-- The full scan gives the payload of each host once and nothing else, in the
pre-order of the hosts. -/
theorem payloads_of_hosts_in_order (marker : String) {root : Document} (h : root.WellKeyed) :
    ∃! hosts : List Position,
      hosts.Pairwise root.Precedes ∧
        (∀ p, p ∈ hosts ↔ ∃ payload, Hosts marker root p payload) ∧
        List.Forall₂ (Hosts marker root) hosts (payloads marker root) := by
  refine ⟨hosts marker root, ⟨pairwise_hosts marker h, fun p => mem_hosts_iff h, ?_⟩, ?_⟩
  · rw [payloads_eq_filterMap_positions marker h]
    apply (forall₂_filter_filterMap (payloadAt? marker root) root.positions).imp
    intro p payload
    exact payloadAt?_eq_some_iff.1
  · rintro others ⟨hordered, hmem, -⟩
    apply Document.eq_of_pairwise_precedes h hordered (pairwise_hosts marker h)
    intro p
    rw [hmem p, mem_hosts_iff h]

/-- Hosts before, inside and after the payload of another. -/
def nestedHosts : Document :=
  .object [
    ("before", .list [.null, .object [("v", .object [("id", .int 1)])]]),
    ("v", .object [("id", .int 2), ("more", .object [("v", .object [("id", .int 3)])])]),
    ("after", .object [("v", .object []), ("w", .object [("v", .null)])])]

theorem wellKeyed_nestedHosts : nestedHosts.WellKeyed := by
  simp [nestedHosts, Document.WellKeyed, Document.WellKeyedEntries,
    Document.WellKeyedElements]

theorem payloads_of_nestedHosts_in_order :
    nestedHosts.WellKeyed ∧
      ∃! hosts : List Position,
        hosts.Pairwise nestedHosts.Precedes ∧
          (∀ p, p ∈ hosts ↔ ∃ payload, Hosts "v" nestedHosts p payload) ∧
          List.Forall₂ (Hosts "v" nestedHosts) hosts (payloads "v" nestedHosts) :=
  ⟨wellKeyed_nestedHosts, payloads_of_hosts_in_order "v" wellKeyed_nestedHosts⟩

example : payloads "v" nestedHosts = [
    .object [("id", .int 2), ("more", .object [("v", .object [("id", .int 3)])])],
    .object [("id", .int 1)],
    .object [("id", .int 3)],
    .object []] := by rfl

end KidsListing.Scan
