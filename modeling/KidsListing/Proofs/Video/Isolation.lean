import KidsListing.Proofs.Run
import KidsListing.Video.Fragment
import Mathlib.Data.List.TakeWhile

/-!
# Isolation of damaged fragments

A fragment that fails to decode costs a list of fragments nothing but its own
video, provided that its id can be read: the warning names the id and reads it
outside the part that may fail.  The first fragment whose id cannot be read
ends the whole list with its fault.
-/

namespace KidsListing.Fragment

def item? (f : Fragment) : Option Video :=
  match f.decode with
  | .item video => some video
  | _ => none

/-- The warning for a fragment that fails to decode. -/
def warning? (f : Fragment) : Option Event :=
  match f.decode with
  | .failed fault => some (.logged (.fragmentSkipped (f.content.step "videoId") fault))
  | _ => none

/-- The fault of reading the id of a fragment. -/
def idFault? (f : Fragment) : Option Fault :=
  match f.read "videoId" with
  | .ok _ => none
  | .error fault => some fault

/-- Reading gives the value under the key or fails. -/
theorem read_eq_of_ok {f : Fragment} {key : String} {value : Document}
    (h : f.read key = .ok value) : value = f.content.step key := by
  unfold read at h
  split at h
  · split at h
    · cases h
    · exact (Except.ok.inj h).symm
  · exact (Except.ok.inj h).symm

theorem read_id_of_idFault?_eq_none {f : Fragment} (h : f.idFault? = none) :
    f.read "videoId" = .ok (f.content.step "videoId") := by
  unfold idFault? at h
  split at h
  · rename_i value hread
    rw [hread, read_eq_of_ok hread]
  · cases h

theorem read_id_of_idFault?_eq_some {f : Fragment} {fault : Fault}
    (h : f.idFault? = some fault) : f.read "videoId" = .error fault := by
  unfold idFault? at h
  split at h
  · cases h
  · rename_i hread
    rw [hread, Option.some.inj h]

/-- The id is read first, so its fault is the fault of decoding. -/
theorem decode_of_idFault?_eq_some {f : Fragment} {fault : Fault}
    (h : f.idFault? = some fault) : f.decode = .failed fault := by
  have hvideo : f.video? = .error fault := by
    unfold video?
    rw [read_id_of_idFault?_eq_some h]
    rfl
  rw [decode, hvideo]

/-! ## One fragment of a list -/

theorem decodeAll_cons_of_item {f : Fragment} {video : Video} (h : f.decode = .item video)
    (rest : List Fragment) : decodeAll (f :: rest) = (video :: ·) <$> decodeAll rest := by
  rw [decodeAll, h]
  exact (map_eq_pure_bind _ _).symm

theorem decodeAll_cons_of_absent {f : Fragment} (h : f.decode = .absent)
    (rest : List Fragment) : decodeAll (f :: rest) = decodeAll rest := by
  rw [decodeAll, h]

theorem decodeAll_cons_of_failed {f : Fragment} {fault : Fault} (h : f.decode = .failed fault)
    (hid : f.idFault? = none) (rest : List Fragment) :
    decodeAll (f :: rest) =
      ⟨(decodeAll rest).outcome,
        .logged (.fragmentSkipped (f.content.step "videoId") fault) ::
          (decodeAll rest).events⟩ := by
  rw [decodeAll, h]
  simp only [read_id_of_idFault?_eq_none hid]
  rfl

theorem decodeAll_cons_of_idFault {f : Fragment} {fault : Fault}
    (h : f.idFault? = some fault) (rest : List Fragment) :
    decodeAll (f :: rest) = .fail fault := by
  rw [decodeAll, decode_of_idFault?_eq_some h]
  simp only [read_id_of_idFault?_eq_some h]
  rfl

/-! ## Whole lists -/

/-- The first id that cannot be read decides the outcome. -/
theorem outcome_decodeAll (fragments : List Fragment) :
    (decodeAll fragments).outcome =
      match fragments.findSome? idFault? with
      | some fault => .error fault
      | none => .ok (fragments.filterMap item?) := by
  induction fragments with
  | nil => rfl
  | cons f rest ih =>
      cases hid : f.idFault? with
      | some fault =>
          rw [decodeAll_cons_of_idFault hid, List.findSome?_cons, hid]
          rfl
      | none =>
          rw [List.findSome?_cons, hid]
          cases hdecode : f.decode with
          | item video =>
              rw [decodeAll_cons_of_item hdecode, Run.outcome_map, ih]
              have hitem : f.item? = some video := by rw [item?, hdecode]
              cases rest.findSome? idFault? <;> simp [Except.map, hitem]
          | absent =>
              have hitem : f.item? = none := by rw [item?, hdecode]
              rw [decodeAll_cons_of_absent hdecode, ih, List.filterMap_cons_none hitem]
          | failed fault =>
              have hitem : f.item? = none := by rw [item?, hdecode]
              rw [decodeAll_cons_of_failed hdecode hid, ih, List.filterMap_cons_none hitem]

/-- The failed fragments are warned of in order, up to the first id that cannot
be read. -/
theorem events_decodeAll (fragments : List Fragment) :
    (decodeAll fragments).events =
      (fragments.takeWhile fun f => f.idFault?.isNone).filterMap warning? := by
  induction fragments with
  | nil => rfl
  | cons f rest ih =>
      cases hid : f.idFault? with
      | some fault =>
          rw [decodeAll_cons_of_idFault hid, List.takeWhile_cons_of_neg (by simp [hid])]
          rfl
      | none =>
          rw [List.takeWhile_cons_of_pos (by simp [hid])]
          cases hdecode : f.decode with
          | item video =>
              have hwarning : f.warning? = none := by rw [warning?, hdecode]
              rw [decodeAll_cons_of_item hdecode, Run.events_map, ih,
                List.filterMap_cons_none hwarning]
          | absent =>
              have hwarning : f.warning? = none := by rw [warning?, hdecode]
              rw [decodeAll_cons_of_absent hdecode, ih, List.filterMap_cons_none hwarning]
          | failed fault =>
              rw [decodeAll_cons_of_failed hdecode hid, List.filterMap_cons, warning?, hdecode,
                ih]

theorem findSome?_idFault?_eq_none_iff (fragments : List Fragment) :
    fragments.findSome? idFault? = none ↔ ∀ f ∈ fragments, f.idFault? = none :=
  List.findSome?_eq_none_iff

/-- The videos are those of the fragments that decode as soon as every id can be
read, and only then. -/
theorem outcome_decodeAll_eq_ok_iff (fragments : List Fragment) :
    (decodeAll fragments).outcome = .ok (fragments.filterMap item?) ↔
      ∀ f ∈ fragments, f.idFault? = none := by
  rw [outcome_decodeAll, ← findSome?_idFault?_eq_none_iff]
  cases fragments.findSome? idFault? <;> simp

theorem events_decodeAll_of_readable {fragments : List Fragment}
    (h : ∀ f ∈ fragments, f.idFault? = none) :
    (decodeAll fragments).events = fragments.filterMap warning? := by
  have hall : fragments.takeWhile (fun f => f.idFault?.isNone) = fragments := by
    rw [List.takeWhile_eq_self_iff]
    intro f hf
    rw [h f hf]
    rfl
  rw [events_decodeAll, hall]

section Warnings

theorem eq_of_warning?_eq_some {f : Fragment} {event : Event} (h : f.warning? = some event) :
    ∃ id fault, event = .logged (.fragmentSkipped id fault) := by
  unfold warning? at h
  split at h
  · exact ⟨_, _, (Option.some.inj h).symm⟩
  · cases h

variable {α : Type} (outcome : Except Fault α) (fragments : List Fragment)

theorem posts_warnings : Run.posts ⟨outcome, fragments.filterMap warning?⟩ = [] := by
  rw [Run.posts, List.filterMap_eq_nil_iff]
  intro event hevent
  obtain ⟨f, -, hwarning⟩ := List.mem_filterMap.1 hevent
  obtain ⟨id, fault, rfl⟩ := eq_of_warning?_eq_some hwarning
  rfl

theorem logger_of_mem_notes_warnings {entry : LogEntry}
    (h : entry ∈ Run.notes ⟨outcome, fragments.filterMap warning?⟩) :
    entry.logger = "kids_feed.parsing" := by
  obtain ⟨event, hevent, hentry⟩ := List.mem_filterMap.1 (List.mem_filter.1 h).1
  obtain ⟨f, -, hwarning⟩ := List.mem_filterMap.1 hevent
  obtain ⟨id, fault, rfl⟩ := eq_of_warning?_eq_some hwarning
  obtain rfl := Option.some.inj hentry
  rfl

end Warnings

theorem idFault?_eq_none_of_item {f : Fragment} (h : f.item?.isSome) : f.idFault? = none := by
  cases hid : f.idFault? with
  | none => rfl
  | some fault =>
      rw [item?, decode_of_idFault?_eq_some hid] at h
      cases h

/-- Without the fragments that fail or have no id the same videos are left. -/
theorem outcome_decodeAll_filter (fragments : List Fragment) :
    (decodeAll (fragments.filter fun f => f.item?.isSome)).outcome =
      .ok (fragments.filterMap item?) := by
  have hsame : (fragments.filter fun f => f.item?.isSome).filterMap item? =
      fragments.filterMap item? := by
    rw [List.filterMap_filter]
    congr 1
    funext f
    cases f.item? <;> rfl
  rw [← hsame]
  apply (outcome_decodeAll_eq_ok_iff _).2
  intro f hf
  exact idFault?_eq_none_of_item (List.mem_filter.1 hf).2

/-- Failing fragments cost nothing but their own videos, and one warning each in
their order, exactly when every id can be read. -/
theorem decodeAll_isolates_iff (fragments : List Fragment) :
    ((decodeAll fragments).outcome = .ok (fragments.filterMap item?) ∧
        (decodeAll fragments).events = fragments.filterMap warning? ∧
        (decodeAll (fragments.filter fun f => f.item?.isSome)).outcome =
          (decodeAll fragments).outcome) ↔
      ∀ f ∈ fragments, f.idFault? = none := by
  constructor
  · rintro ⟨houtcome, -, -⟩
    exact (outcome_decodeAll_eq_ok_iff fragments).1 houtcome
  · intro h
    have houtcome := (outcome_decodeAll_eq_ok_iff fragments).2 h
    refine ⟨houtcome, events_decodeAll_of_readable h, ?_⟩
    rw [outcome_decodeAll_filter, houtcome]

/-- The first id cannot be read, and the second fragment is intact. -/
def damagedIdFirst : List Fragment := [
  { content := .object [("videoId", .text "a")]
    damage := some ("videoId", .defect (.runtime "boom")) },
  { content := .object [("videoId", .text "b")] }]

theorem decodeAll_damagedIdFirst_fails :
    (damagedIdFirst.filterMap item?).map Video.url = ["/watch?v=b"] ∧
      (decodeAll damagedIdFirst).outcome = .error (.defect (.runtime "boom")) := by
  constructor
  · decide
  · rfl

end KidsListing.Fragment
