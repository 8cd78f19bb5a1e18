import KidsListing.Document.Equality
import KidsListing.Proofs.Video.Likeness

/-!
# Null entries

A null entry of an object says no more than no entry at all: a document without
its null entries is read like the document itself, and both scans find the same
payloads in it, without their null entries.  Null elements of a list count, and
stay.
-/

namespace KidsListing.Document

mutual

/-- The document without the null entries of its objects, at any depth. -/
def prune : Document → Document
  | .list elements => .list (pruneElements elements)
  | .object entries => .object (pruneEntries entries)
  | d => d

def pruneElements : List Document → List Document
  | [] => []
  | x :: rest => prune x :: pruneElements rest

def pruneEntries : List (String × Document) → List (String × Document)
  | [] => []
  | (key, x) :: rest =>
      if x = .null then pruneEntries rest else (key, prune x) :: pruneEntries rest

end

theorem pruneElements_eq (elements : List Document) :
    pruneElements elements = elements.map prune := by
  induction elements with
  | nil => rfl
  | cons x rest ih => rw [pruneElements, ih, List.map_cons]

theorem plainText_prune (d : Document) : d.prune.plainText = d.plainText := by
  cases d <;> rfl

theorem isObject_prune (d : Document) : d.prune.isObject = d.isObject := by
  cases d <;> rfl

theorem elements_prune (d : Document) :
    Scan.elements d.prune = (Scan.elements d).map prune := by
  cases d with
  | list elements =>
      rw [prune]
      exact pruneElements_eq elements
  | _ => rfl

/-! ## Steps -/

theorem map_fst_pruneEntries_sublist (entries : List (String × Document)) :
    ((pruneEntries entries).map Prod.fst).Sublist (entries.map Prod.fst) := by
  induction entries with
  | nil => exact List.Sublist.slnil
  | cons entry rest ih =>
      obtain ⟨key, x⟩ := entry
      rw [pruneEntries]
      split
      · exact ih.cons key
      · exact ih.cons_cons key

/-- What stands under a key is pruned, and null when it is no longer there. -/
theorem lookup_pruneEntries (key : String) {entries : List (String × Document)}
    (h : (entries.map Prod.fst).Nodup) :
    (lookup key (pruneEntries entries)).getD .null =
      ((lookup key entries).getD .null).prune := by
  induction entries with
  | nil => rfl
  | cons entry rest ih =>
      obtain ⟨name, x⟩ := entry
      obtain ⟨hname, hrest⟩ := List.nodup_cons.1 h
      by_cases hkey : name = key
      · subst hkey
        by_cases hx : x = .null
        · have hnone : lookup name (pruneEntries rest) = none :=
            lookup_eq_none_iff.2 fun hmem =>
              hname ((map_fst_pruneEntries_sublist rest).subset hmem)
          simp only [pruneEntries, hx, if_true, lookup, hnone]
          rfl
        · simp [pruneEntries, hx, lookup]
      · by_cases hx : x = .null <;> simp [pruneEntries, hx, lookup, hkey, ih hrest]

theorem element?_map_prune (elements : List Document) (position : Int) :
    element? (elements.map prune) position = (element? elements position).map prune := by
  simp only [element?, List.length_map, List.getElem?_map]
  split
  · rfl
  · split <;> rfl

theorem step_prune {d : Document} (h : d.WellKeyed) (s : Step) :
    d.prune.step s = (d.step s).prune := by
  cases d with
  | object entries =>
      cases s with
      | key name => exact lookup_pruneEntries name h.1
      | index position => rfl
  | list elements =>
      cases s with
      | key name => rfl
      | index position =>
          rw [prune, pruneElements_eq]
          simp only [Document.step, element?_map_prune]
          cases element? elements position <;> rfl
  | _ => cases s <;> rfl

/-- A well-keyed document is read like the same without its null entries. -/
theorem likeness_prune : Likeness fun d e => d.WellKeyed ∧ e = d.prune where
  plainText h := by rw [h.2, plainText_prune]
  isObject h := by rw [h.2, isObject_prune]
  step h s := ⟨h.1.step s, by rw [h.2, step_prune h.1]⟩
  elements h := by
    rw [h.2, elements_prune, List.forall₂_map_right_iff, List.forall₂_same]
    exact fun x hx => ⟨h.1.of_mem_elements hx, rfl⟩

/-! ## Scans -/

section Scan

open KidsListing.Scan (entryPayload inner payloads sectionPayloads)

theorem eq_map_prune_of_forall₂ {xs ys : List Document}
    (h : List.Forall₂ (fun d e => d.WellKeyed ∧ e = d.prune) xs ys) : ys = xs.map prune := by
  have heq : List.Forall₂ Eq (xs.map prune) ys :=
    List.forall₂_map_left_iff.2 (h.imp fun _ _ hpruned => hpruned.2.symm)
  rw [List.forall₂_eq_eq_eq] at heq
  exact heq.symm

variable (marker : String)

theorem entryPayload_prune {d : Document} (h : d.WellKeyed) :
    entryPayload marker d.prune = (entryPayload marker d).map prune :=
  eq_map_prune_of_forall₂ (likeness_prune.entryPayload ⟨h, rfl⟩ marker)

/-- The section scan finds the pruned payloads. -/
theorem sectionPayloads_prune {d : Document} (h : d.WellKeyed) :
    sectionPayloads marker d.prune = (sectionPayloads marker d).map prune :=
  eq_map_prune_of_forall₂ (likeness_prune.sectionPayloads ⟨h, rfl⟩ marker)

theorem inner_object_prune {entries : List (String × Document)}
    (h : ∀ entry ∈ entries, payloads marker entry.2.prune =
      (payloads marker entry.2).map prune) :
    inner marker (.object (pruneEntries entries)) =
      (inner marker (.object entries)).map prune := by
  induction entries with
  | nil => rfl
  | cons entry rest ih =>
      obtain ⟨key, x⟩ := entry
      obtain ⟨hx, hrest⟩ := List.forall_mem_cons.1 h
      have ih := ih hrest
      rw [Scan.inner_object, Scan.inner_object] at ih ⊢
      rw [pruneEntries, List.flatMap_cons, List.map_append, ← ih]
      split
      · rename_i hnull
        rw [hnull]
        rfl
      · rw [List.flatMap_cons, hx]

/-- The full scan finds the pruned payloads. -/
theorem payloads_prune {d : Document} (h : d.WellKeyed) :
    payloads marker d.prune = (payloads marker d).map prune := by
  induction d using childInduction with
  | step d ih =>
      have hbelow : ∀ x ∈ d.children.map Prod.snd,
          payloads marker x.prune = (payloads marker x).map prune := by
        intro x hx
        obtain ⟨c, hc, rfl⟩ := List.mem_map.1 hx
        exact ih c hc (((wellKeyed_iff d).1 h).2 c hc)
      have hinner : inner marker d.prune = (inner marker d).map prune := by
        cases d with
        | list elements =>
            rw [map_snd_children_list] at hbelow
            rw [prune, pruneElements_eq, Scan.inner_list, Scan.inner_list, List.flatMap_map,
              List.map_flatMap]
            exact List.flatMap_congr hbelow
        | object entries =>
            rw [map_snd_children_object, List.forall_mem_map] at hbelow
            exact inner_object_prune marker hbelow
        | _ => rfl
      rw [Scan.payloads_eq_append_inner, Scan.payloads_eq_append_inner,
        entryPayload_prune marker h, hinner, List.map_append]

end Scan

end KidsListing.Document
