import KidsListing.Proofs.Video.Likeness
import Mathlib.Data.List.Perm.Basic

/-!
# Documents that differ in the order of entries

Two documents may be equal up to the order in which the entries of their objects
stand, at any depth.  Such documents are read alike, since objects are read by
their keys; the full scan, which goes through the entries in their order, finds
the same payloads in another order.
-/

namespace KidsListing.Document

/-- Equality up to the order of the entries of objects, at any depth.  Lists keep
their order. -/
inductive Reordered : Document → Document → Prop where
  | refl (d : Document) : Reordered d d
  | trans {d e f : Document} (first : Reordered d e) (second : Reordered e f) :
      Reordered d f
  | element {x y : Document} {xs ys : List Document} (head : Reordered x y)
      (rest : Reordered (.list xs) (.list ys)) :
      Reordered (.list (x :: xs)) (.list (y :: ys))
  | entry (key : String) {x y : Document} {xs ys : List (String × Document)}
      (head : Reordered x y) (rest : Reordered (.object xs) (.object ys)) :
      Reordered (.object ((key, x) :: xs)) (.object ((key, y) :: ys))
  | swap (first second : String × Document) (rest : List (String × Document)) :
      Reordered (.object (first :: second :: rest)) (.object (second :: first :: rest))

/-- The keys of an object; nothing else has any. -/
def keys : Document → List String
  | .object entries => entries.map Prod.fst
  | _ => []

theorem wellKeyed_list_cons {x : Document} {rest : List Document} :
    (list (x :: rest)).WellKeyed ↔ x.WellKeyed ∧ (list rest).WellKeyed := by
  simp only [WellKeyed, WellKeyedElements]

theorem wellKeyed_object_cons {key : String} {x : Document}
    {rest : List (String × Document)} :
    (object ((key, x) :: rest)).WellKeyed ↔
      key ∉ (object rest).keys ∧ x.WellKeyed ∧ (object rest).WellKeyed := by
  simp only [WellKeyed, WellKeyedEntries, List.map_cons, List.nodup_cons, keys]
  tauto

theorem step_object_cons (key name : String) (x : Document)
    (rest : List (String × Document)) :
    (object ((key, x) :: rest)).step name =
      if key = name then x else (object rest).step name := by
  simp only [Document.step, lookup]
  split <;> rfl

theorem step_index (d : Document) (position : Int) :
    d.step (.index position) = (element? (Scan.elements d) position).getD .null := by
  cases d with
  | list elements => rfl
  | _ => simp [Document.step, Scan.elements, element?]

namespace Reordered

variable {d e : Document}

theorem object_of_perm {xs ys : List (String × Document)} (h : xs.Perm ys) :
    Reordered (.object xs) (.object ys) := by
  induction h with
  | nil => exact .refl _
  | cons entry _ ih => exact .entry entry.1 (.refl entry.2) ih
  | swap first second rest => exact .swap second first rest
  | trans _ _ ih ih' => exact ih.trans ih'

theorem plainText_eq (h : Reordered d e) : d.plainText = e.plainText := by
  induction h with
  | trans _ _ ih ih' => exact ih.trans ih'
  | _ => rfl

theorem isObject_eq (h : Reordered d e) : d.isObject = e.isObject := by
  induction h with
  | trans _ _ ih ih' => exact ih.trans ih'
  | _ => rfl

theorem perm_keys (h : Reordered d e) : d.keys.Perm e.keys := by
  induction h with
  | refl _ => exact List.Perm.refl _
  | trans _ _ ih ih' => exact ih.trans ih'
  | element _ _ _ _ => exact List.Perm.refl _
  | entry key _ _ _ ih => exact ih.cons key
  | swap first second rest => exact List.Perm.swap _ _ _

theorem wellKeyed_iff (h : Reordered d e) : d.WellKeyed ↔ e.WellKeyed := by
  induction h with
  | refl _ => exact Iff.rfl
  | trans _ _ ih ih' => exact ih.trans ih'
  | element _ _ ih ih' => rw [wellKeyed_list_cons, wellKeyed_list_cons, ih, ih']
  | entry key _ rest ih ih' =>
      rw [wellKeyed_object_cons, wellKeyed_object_cons, ih, ih', rest.perm_keys.mem_iff]
  | swap first second rest =>
      obtain ⟨key, x⟩ := first
      obtain ⟨other, y⟩ := second
      have hdistinct : key ≠ other ↔ other ≠ key := ne_comm
      simp only [wellKeyed_object_cons, keys, List.map_cons, List.mem_cons, not_or, hdistinct]
      tauto

theorem forall₂_trans {xs ys zs : List Document} (first : List.Forall₂ Reordered xs ys)
    (second : List.Forall₂ Reordered ys zs) : List.Forall₂ Reordered xs zs := by
  induction first generalizing zs with
  | nil => exact second
  | cons head _ ih =>
      cases second with
      | cons head' rest' => exact .cons (head.trans head') (ih rest')

theorem elements (h : Reordered d e) :
    List.Forall₂ Reordered (Scan.elements d) (Scan.elements e) := by
  induction h with
  | refl d => exact List.forall₂_same.2 fun x _ => .refl x
  | trans _ _ ih ih' => exact forall₂_trans ih ih'
  | element head _ _ ih => exact .cons head ih
  | entry _ _ _ _ _ => exact .nil
  | swap _ _ _ => exact .nil

theorem step_key (h : Reordered d e) (hd : d.WellKeyed) (name : String) :
    Reordered (d.step name) (e.step name) := by
  induction h with
  | refl d => exact .refl _
  | trans first _ ih ih' => exact (ih hd).trans (ih' (first.wellKeyed_iff.1 hd))
  | element _ _ _ _ => exact .refl .null
  | entry key head _ _ ih =>
      rw [step_object_cons, step_object_cons]
      split
      · exact head
      · exact ih (wellKeyed_object_cons.1 hd).2.2
  | swap first second rest =>
      -- Where the keys differ, at most one of the two is asked for.
      obtain ⟨key, x⟩ := first
      obtain ⟨other, y⟩ := second
      have hdistinct : key ≠ other :=
        List.ne_of_not_mem_cons (wellKeyed_object_cons.1 hd).1
      simp only [step_object_cons]
      by_cases hkey : key = name
      · rw [if_pos hkey, if_pos hkey, if_neg (hkey ▸ hdistinct.symm)]
        exact .refl x
      · rw [if_neg hkey, if_neg hkey]
        exact .refl _

theorem element_of_forall₂ {xs ys : List Document} (h : List.Forall₂ Reordered xs ys)
    (position : Int) :
    Reordered ((element? xs position).getD .null) ((element? ys position).getD .null) := by
  have hget (n : Nat) : Reordered (xs[n]?.getD .null) (ys[n]?.getD .null) := by
    induction h generalizing n with
    | nil => exact .refl .null
    | cons head _ ih =>
        cases n with
        | zero => exact head
        | succ n => exact ih n
  simp only [element?, h.length_eq]
  split
  · exact hget _
  · split
    · exact hget _
    · exact .refl .null

theorem step (h : Reordered d e) (hd : d.WellKeyed) (s : Step) :
    Reordered (d.step s) (e.step s) := by
  cases s with
  | key name => exact h.step_key hd name
  | index position =>
      rw [step_index, step_index]
      exact element_of_forall₂ h.elements position

/-- Well-keyed documents are read alike in any order of their entries. -/
theorem likeness : Likeness fun d e => d.WellKeyed ∧ Reordered d e where
  plainText h := h.2.plainText_eq
  isObject h := h.2.isObject_eq
  step h s := ⟨h.1.step s, h.2.step h.1 s⟩
  elements h := (List.forall₂_and_left _ _).2 ⟨fun _ hx => h.1.of_mem_elements hx, h.2.elements⟩

/-! ## The full scan -/

section Scan

open KidsListing.Scan (payloads inner)

variable {β : Type} {f : Document → Option β} (marker : String)
  (hf : ∀ d e, d.WellKeyed ∧ Reordered d e → f d = f e)

include hf

theorem perm_payloads_of_inner (h : Reordered d e) (hd : d.WellKeyed)
    (hinner : ((inner marker d).filterMap f).Perm ((inner marker e).filterMap f)) :
    ((payloads marker d).filterMap f).Perm ((payloads marker e).filterMap f) := by
  have hown := Likeness.filterMap_eq hf (likeness.entryPayload ⟨hd, h⟩ marker)
  rw [Scan.payloads_eq_append_inner, Scan.payloads_eq_append_inner, List.filterMap_append,
    List.filterMap_append, hown]
  exact hinner.append_left _

theorem perm_inner (h : Reordered d e) (hd : d.WellKeyed) :
    ((inner marker d).filterMap f).Perm ((inner marker e).filterMap f) := by
  induction h with
  | refl d => exact List.Perm.refl _
  | trans first _ ih ih' => exact (ih hd).trans (ih' (first.wellKeyed_iff.1 hd))
  | element head _ ih ih' =>
      obtain ⟨hx, hrest⟩ := wellKeyed_list_cons.1 hd
      simp only [Scan.inner_list, List.flatMap_cons, List.filterMap_append] at ih' ⊢
      exact (perm_payloads_of_inner marker hf head hx (ih hx)).append (ih' hrest)
  | entry key head _ ih ih' =>
      obtain ⟨-, hx, hrest⟩ := wellKeyed_object_cons.1 hd
      simp only [Scan.inner_object, List.flatMap_cons, List.filterMap_append] at ih' ⊢
      exact (perm_payloads_of_inner marker hf head hx (ih hx)).append (ih' hrest)
  | swap first second rest =>
      simp only [Scan.inner_object, List.flatMap_cons, List.filterMap_append]
      exact List.perm_append_comm_assoc _ _ _

/-- The full scan finds the same payloads in both documents, but for the order. -/
theorem perm_payloads (h : Reordered d e) (hd : d.WellKeyed) :
    ((payloads marker d).filterMap f).Perm ((payloads marker e).filterMap f) :=
  perm_payloads_of_inner marker hf h hd (perm_inner marker hf h hd)

end Scan

end Reordered

end KidsListing.Document
