import KidsListing.Proofs.Video.Isolation
import KidsListing.Proofs.Video.Keys
import KidsListing.Proofs.Video.Scan

/-!
# Likenesses of documents

A fragment is read through four questions alone: what the plain text of a
document is, whether it is an object, what stands at the end of a step, and which
elements it has.  A likeness is a relation between documents that agree on the
first two and are led by the others to documents that are related again.  Such
documents decode to the same video, and the section scan finds related payloads
in them, one for one and in the same order.
-/

namespace KidsListing

/-- A relation between documents that are read alike. -/
structure Likeness (Alike : Document → Document → Prop) : Prop where
  plainText : ∀ {d e}, Alike d e → d.plainText = e.plainText
  isObject : ∀ {d e}, Alike d e → d.isObject = e.isObject
  step : ∀ {d e}, Alike d e → ∀ s, Alike (d.step s) (e.step s)
  elements : ∀ {d e}, Alike d e → List.Forall₂ Alike (Scan.elements d) (Scan.elements e)

theorem Document.label_eq (node : Document) :
    node.label =
      match Scan.elements (node.step "runs") with
      | run :: _ => (run.step "text").plainText
      | [] => (node.step "simpleText").plainText := by
  rw [label]
  cases node.step "runs" with
  | list elements => cases elements <;> rfl
  | _ => rfl

theorem Document.WellKeyed.of_mem_elements {d x : Document} (h : d.WellKeyed)
    (hx : x ∈ Scan.elements d) : x.WellKeyed := by
  cases d with
  | list elements =>
      simp only [Document.WellKeyed] at h
      exact (Document.wellKeyedElements_iff elements).1 h x hx
  | _ => cases hx

theorem Document.WellKeyed.step {d : Document} (h : d.WellKeyed) (s : Document.Step) :
    (d.step s).WellKeyed := by
  unfold Document.step
  split
  · rename_i entries key
    simp only [Document.WellKeyed] at h
    cases hlookup : Document.lookup key entries with
    | none => trivial
    | some x =>
        have hmem := (Document.lookup_eq_some_iff h.1).1 hlookup
        exact (Document.wellKeyedEntries_iff entries).1 h.2 _ hmem
  · rename_i elements position
    cases helement : Document.element? elements position with
    | none => trivial
    | some x => exact h.of_mem_elements (Document.mem_of_element? helement)
  · trivial

theorem Scan.wellKeyed_of_mem_payloads {marker : String} {d payload : Document}
    (h : d.WellKeyed) (hpayload : payload ∈ Scan.payloads marker d) : payload.WellKeyed := by
  induction d using Document.childInduction with
  | step d ih =>
      rw [Scan.payloads_eq_append_inner, List.mem_append] at hpayload
      rcases hpayload with hown | hinner
      · simp only [Scan.entryPayload] at hown
        split at hown
        · rw [List.mem_singleton.1 hown]
          exact h.step marker
        · cases hown
      · obtain ⟨c, hc, hbelow⟩ := List.mem_flatMap.1 hinner
        exact ih c hc (((Document.wellKeyed_iff d).1 h).2 c hc) hbelow

namespace Likeness

theorem filterMap_eq {Alike : Document → Document → Prop} {β : Type} {f : Document → Option β}
    (hf : ∀ d e, Alike d e → f d = f e) {payloads others : List Document}
    (h : List.Forall₂ Alike payloads others) : payloads.filterMap f = others.filterMap f := by
  induction h with
  | nil => rfl
  | cons head _ ih => rw [List.filterMap_cons, List.filterMap_cons, hf _ _ head, ih]

variable {Alike : Document → Document → Prop} (likeness : Likeness Alike)
  {d e : Document} (h : Alike d e)

include likeness h

/-! ## Texts -/

theorem walk (path : List Document.Step) : Alike (d.walk path) (e.walk path) := by
  induction path generalizing d e with
  | nil => exact h
  | cons s rest ih => exact ih (likeness.step h s)

theorem label : d.label = e.label := by
  have hruns := likeness.elements (likeness.step h "runs")
  rw [Document.label_eq, Document.label_eq]
  generalize Scan.elements (d.step "runs") = runs at hruns ⊢
  generalize Scan.elements (e.step "runs") = others at hruns ⊢
  cases hruns with
  | nil => exact likeness.plainText (likeness.step h "simpleText")
  | cons hrun _ => exact likeness.plainText (likeness.step hrun "text")

theorem plainText_walk (path : List Document.Step) :
    (d.walk path).plainText = (e.walk path).plainText :=
  likeness.plainText (likeness.walk h path)

theorem linkedChannel : d.linkedChannel = e.linkedChannel := by
  rw [Document.linkedChannel, Document.linkedChannel, likeness.plainText_walk h]

/-! ## Videos -/

/-- Documents that are alike decode to the same video. -/
theorem video?_eq : Fragment.video? { content := d } = Fragment.video? { content := e } := by
  have hstep (s : Document.Step) : Alike (d.step s) (e.step s) := likeness.step h s
  have htext : (d.step "videoId").plainText = (e.step "videoId").plainText :=
    likeness.plainText (hstep _)
  have hchannel : (d.step "longBylineText").linkedChannel =
      (e.step "longBylineText").linkedChannel := likeness.linkedChannel (hstep _)
  have hlabel (key : String) : (d.step key).label = (e.step key).label :=
    likeness.label (hstep key)
  have hsharpest : (d.step "thumbnail").sharpestImage = (e.step "thumbnail").sharpestImage :=
    likeness.plainText_walk (hstep _) _
  have hfirst : (d.step "channelThumbnail").firstImage =
      (e.step "channelThumbnail").firstImage := likeness.plainText_walk (hstep _) _
  simp only [Fragment.video?, Fragment.read_undamaged, Fragment.ok_bind, htext, hchannel,
    hlabel, hsharpest, hfirst]

theorem item?_eq : Fragment.item? { content := d } = Fragment.item? { content := e } := by
  rw [Fragment.item?, Fragment.item?, Fragment.decode, Fragment.decode, likeness.video?_eq h]

/-! ## Scans -/

theorem entryPayload (marker : String) :
    List.Forall₂ Alike (Scan.entryPayload marker d) (Scan.entryPayload marker e) := by
  have hpayload := likeness.step h marker
  simp only [Scan.entryPayload, ← likeness.isObject hpayload]
  split
  · exact .cons hpayload .nil
  · exact .nil

/-- The section scan goes along paths and through elements only. -/
theorem sectionPayloads (marker : String) :
    List.Forall₂ Alike (Scan.sectionPayloads marker d) (Scan.sectionPayloads marker e) := by
  apply List.rel_flatMap (likeness.elements (likeness.walk h _))
  intro part other hpart
  apply List.rel_flatMap (likeness.elements (likeness.walk hpart _))
  intro entry another hentry
  exact likeness.entryPayload hentry marker

end Likeness

end KidsListing
