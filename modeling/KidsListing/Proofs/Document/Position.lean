import KidsListing.Document.Basic
import Mathlib.Data.List.Nodup

/-!
# Positions in documents

A position is the way from the root of a tree to one of its nodes, by keys of
objects and indexes of lists.  In a well-keyed tree positions and nodes
correspond, and the positions are strictly ordered: a node comes before all that
is below it, and what stands in different branches of one node comes in the
order of these branches.  `positions` lists them all in that order.
-/

namespace KidsListing.Document

/-- One step down in a tree. -/
inductive Branch where
  | entry (key : String)
  | element (index : Nat)
  deriving DecidableEq, Repr

abbrev Position := List Branch

/-- What stands right below a node, in document order. -/
def children : Document → List (Branch × Document)
  | .list elements => elements.mapIdx fun index x => (.element index, x)
  | .object entries => entries.map fun entry => (.entry entry.1, entry.2)
  | _ => []

def child? : Document → Branch → Option Document
  | .object entries, .entry key => lookup key entries
  | .list elements, .element index => elements[index]?
  | _, _ => none

/-- The node at a position. -/
def node? : Document → Position → Option Document
  | d, [] => some d
  | d, b :: p => (d.child? b).bind fun x => x.node? p

/-- The order of the entries of an object and of the elements of a list. -/
def Before (d : Document) (b c : Branch) : Prop :=
  [b, c].Sublist (d.children.map Prod.fst)

/-- The pre-order of positions: one comes before all strictly below it, and two
that part at a node come in the order of its branches there. -/
inductive Precedes : Document → Position → Position → Prop where
  | above {d : Document} (b : Branch) (p : Position) : Precedes d [] (b :: p)
  | inside {d x : Document} {b : Branch} {p q : Position} (hchild : d.child? b = some x)
      (hbelow : Precedes x p q) : Precedes d (b :: p) (b :: q)
  | apart {d : Document} {b c : Branch} (p q : Position) (hbefore : d.Before b c) :
      Precedes d (b :: p) (c :: q)

/-! ## Children -/

theorem sizeOf_lt_of_mem_children {d : Document} {c : Branch × Document}
    (h : c ∈ d.children) : sizeOf c.2 < sizeOf d := by
  cases d with
  | list elements =>
      obtain ⟨index, hindex, rfl⟩ := List.mem_mapIdx.1 h
      have := List.sizeOf_lt_of_mem (List.getElem_mem hindex)
      simp only [list.sizeOf_spec]
      omega
  | object entries =>
      obtain ⟨entry, hentry, rfl⟩ := List.mem_map.1 h
      have := List.sizeOf_lt_of_mem hentry
      obtain ⟨key, x⟩ := entry
      simp only [Prod.mk.sizeOf_spec, object.sizeOf_spec] at this ⊢
      omega
  | _ => simp [children] at h

/-- What holds of a tree as soon as it holds of its children holds of every tree. -/
theorem childInduction {motive : Document → Prop}
    (step : ∀ d : Document, (∀ c ∈ d.children, motive c.2) → motive d) (d : Document) :
    motive d :=
  step d fun c _hc => childInduction step c.2
termination_by sizeOf d
decreasing_by exact sizeOf_lt_of_mem_children _hc

theorem map_snd_children_list (elements : List Document) :
    (list elements).children.map Prod.snd = elements := by
  apply List.ext_getElem <;> simp [children]

theorem map_snd_children_object (entries : List (String × Document)) :
    (object entries).children.map Prod.snd = entries.map Prod.snd := by
  simp [children]

theorem wellKeyedElements_iff (elements : List Document) :
    WellKeyedElements elements ↔ ∀ x ∈ elements, x.WellKeyed := by
  induction elements with
  | nil => simp [WellKeyedElements]
  | cons x rest ih => simp [WellKeyedElements, ih]

theorem wellKeyedEntries_iff (entries : List (String × Document)) :
    WellKeyedEntries entries ↔ ∀ entry ∈ entries, entry.2.WellKeyed := by
  induction entries with
  | nil => simp [WellKeyedEntries]
  | cons entry rest ih => simp [WellKeyedEntries, ih]

theorem nodup_children_list (elements : List Document) :
    ((list elements).children.map Prod.fst).Nodup := by
  rw [List.nodup_iff_injective_getElem]
  intro i j h
  apply Fin.ext
  simpa [children] using h

theorem map_fst_children_object (entries : List (String × Document)) :
    (object entries).children.map Prod.fst = (entries.map Prod.fst).map Branch.entry := by
  simp [children]

/-- A tree is well keyed when its branches differ and lead to well-keyed trees. -/
theorem wellKeyed_iff (d : Document) :
    d.WellKeyed ↔ (d.children.map Prod.fst).Nodup ∧ ∀ c ∈ d.children, c.2.WellKeyed := by
  cases d with
  | list elements =>
      simp only [WellKeyed, wellKeyedElements_iff, nodup_children_list, true_and]
      constructor
      · intro h c hc
        obtain ⟨index, hindex, rfl⟩ := List.mem_mapIdx.1 hc
        exact h _ (List.getElem_mem hindex)
      · intro h x hx
        obtain ⟨index, hindex, rfl⟩ := List.getElem_of_mem hx
        exact h (.element index, elements[index]) (List.mem_mapIdx.2 ⟨index, hindex, rfl⟩)
  | object entries =>
      have hinjective : Function.Injective Branch.entry := fun _ _ h => Branch.entry.inj h
      rw [map_fst_children_object, List.nodup_map_iff hinjective]
      simp only [WellKeyed, wellKeyedEntries_iff, children, List.forall_mem_map]
  | _ => simp [WellKeyed, children]

theorem lookup_eq_some_iff {entries : List (String × Document)} {key : String} {x : Document}
    (h : (entries.map Prod.fst).Nodup) :
    lookup key entries = some x ↔ (key, x) ∈ entries := by
  induction entries with
  | nil => simp [lookup]
  | cons entry rest ih =>
      obtain ⟨k, y⟩ := entry
      obtain ⟨hk, hrest⟩ := List.nodup_cons.1 h
      by_cases hkey : k = key
      · subst hkey
        have hnot : (k, x) ∉ rest := fun hmem => hk (List.mem_map.2 ⟨_, hmem, rfl⟩)
        simp [lookup, hnot, eq_comm]
      · simp [lookup, hkey, ih hrest, Ne.symm hkey]

theorem child?_eq_some_iff {d : Document} (h : d.WellKeyed) {b : Branch} {x : Document} :
    d.child? b = some x ↔ (b, x) ∈ d.children := by
  cases d with
  | list elements =>
      cases b with
      | entry key => simp [child?, children]
      | element index =>
          simp only [child?, children, List.mem_mapIdx, List.getElem?_eq_some_iff]
          constructor
          · rintro ⟨hindex, rfl⟩
            exact ⟨index, hindex, rfl⟩
          · rintro ⟨_, hindex, heq⟩
            cases heq
            exact ⟨hindex, rfl⟩
  | object entries =>
      cases b with
      | entry key =>
          simp only [WellKeyed] at h
          simp [child?, children, lookup_eq_some_iff h.1]
      | element index => simp [child?, children]
  | _ => cases b <;> simp [child?, children]

theorem wellKeyed_of_child? {d x : Document} (h : d.WellKeyed) {b : Branch}
    (hchild : d.child? b = some x) : x.WellKeyed :=
  ((wellKeyed_iff d).1 h).2 _ ((child?_eq_some_iff h).1 hchild)

/-! ## The positions in order -/

/-- The positions of all nodes. -/
def positions (d : Document) : List Position :=
  [] :: d.children.attach.flatMap fun c => c.1.2.positions.map (c.1.1 :: ·)
termination_by sizeOf d
decreasing_by exact sizeOf_lt_of_mem_children c.2

theorem positions_eq (d : Document) :
    d.positions = [] :: d.children.flatMap fun c => c.2.positions.map (c.1 :: ·) := by
  rw [positions, List.flatMap_subtype (g := fun c => c.2.positions.map (c.1 :: ·))
    fun _ _ => rfl, List.unattach_attach]

theorem node?_cons_of_mem {d : Document} (h : d.WellKeyed) {c : Branch × Document}
    (hc : c ∈ d.children) (p : Position) : d.node? (c.1 :: p) = c.2.node? p := by
  rw [node?, (child?_eq_some_iff h).2 hc, Option.bind_some]

theorem mem_positions_iff {d : Document} (h : d.WellKeyed) {p : Position} :
    p ∈ d.positions ↔ (d.node? p).isSome := by
  induction p generalizing d with
  | nil =>
      rw [positions_eq]
      simp [node?]
  | cons b p ih =>
      have hbelow : b :: p ∈ d.positions ↔ ∃ x, (b, x) ∈ d.children ∧ p ∈ x.positions := by
        rw [positions_eq]
        simp only [List.mem_cons, List.mem_flatMap, List.mem_map, reduceCtorEq, false_or,
          Prod.exists, List.cons.injEq]
        constructor
        · rintro ⟨_, x, hx, _, hp, rfl, rfl⟩
          exact ⟨x, hx, hp⟩
        · rintro ⟨x, hx, hp⟩
          exact ⟨b, x, hx, p, hp, rfl, rfl⟩
      rw [hbelow, node?, Option.isSome_bind, Option.any_eq_true]
      apply exists_congr
      intro x
      rw [← child?_eq_some_iff h]
      apply and_congr_right
      intro hchild
      exact ih (wellKeyed_of_child? h hchild)

/-- The list of positions is in pre-order. -/
theorem pairwise_positions {d : Document} (h : d.WellKeyed) :
    d.positions.Pairwise d.Precedes := by
  induction d using childInduction with
  | step d ih =>
      obtain ⟨-, hchildren⟩ := (wellKeyed_iff d).1 h
      rw [positions_eq, List.pairwise_cons, List.pairwise_flatMap]
      refine ⟨?_, ?_, ?_⟩
      · intro p hp
        obtain ⟨c, -, hp⟩ := List.mem_flatMap.1 hp
        obtain ⟨q, -, rfl⟩ := List.mem_map.1 hp
        exact .above c.1 q
      · intro c hc
        rw [List.pairwise_map]
        apply (ih c hc (hchildren c hc)).imp
        intro p q hpq
        exact .inside ((child?_eq_some_iff h).2 hc) hpq
      · apply List.pairwise_iff_forall_sublist.2
        intro c e hce p hp q hq
        obtain ⟨p, -, rfl⟩ := List.mem_map.1 hp
        obtain ⟨q, -, rfl⟩ := List.mem_map.1 hq
        exact .apart p q (hce.map Prod.fst)

theorem not_sublist_swap {branches : List Branch} (h : branches.Nodup) {b c : Branch}
    (hbc : [b, c].Sublist branches) : ¬ [c, b].Sublist branches := by
  induction branches with
  | nil => simp at hbc
  | cons first rest ih =>
      obtain ⟨hfirst, hrest⟩ := List.nodup_cons.1 h
      intro hcb
      cases hbc with
      | cons _ hbc =>
          cases hcb with
          | cons _ hcb => exact ih hrest hbc hcb
          | cons_cons _ hb => exact hfirst (hbc.subset (by simp))
      | cons_cons _ hc =>
          cases hcb with
          | cons _ hcb => exact hfirst (hcb.subset (by simp))
          | cons_cons _ hb => exact hfirst (hc.subset (by simp))

theorem ne_of_before {d : Document} (h : d.WellKeyed) {b c : Branch} (hbc : d.Before b c) :
    b ≠ c := by
  rintro rfl
  exact List.nodup_iff_sublist.1 ((wellKeyed_iff d).1 h).1 b hbc

theorem not_before_of_before {d : Document} (h : d.WellKeyed) {b c : Branch}
    (hbc : d.Before b c) : ¬ d.Before c b :=
  not_sublist_swap ((wellKeyed_iff d).1 h).1 hbc

/-- No two positions come before each other. -/
theorem not_precedes_of_precedes {d : Document} (h : d.WellKeyed) {p q : Position}
    (hpq : d.Precedes p q) : ¬ d.Precedes q p := by
  induction hpq with
  | above b p => nofun
  | @inside d x b p q hchild hbelow ih =>
      intro hqp
      cases hqp with
      | inside hchild' hbelow' =>
          obtain rfl := Option.some.inj (hchild.symm.trans hchild')
          exact ih (wellKeyed_of_child? h hchild) hbelow'
      | apart _ _ hbefore => exact ne_of_before h hbefore rfl
  | apart p q hbefore =>
      intro hqp
      cases hqp with
      | inside _ _ => exact ne_of_before h hbefore rfl
      | apart _ _ hbefore' => exact not_before_of_before h hbefore hbefore'

theorem nodup_of_pairwise_precedes {d : Document} (h : d.WellKeyed) {ps : List Position}
    (hps : ps.Pairwise d.Precedes) : ps.Nodup := by
  apply hps.imp
  rintro p q hpq rfl
  exact not_precedes_of_precedes h hpq hpq

/-- The pre-order of a set of positions is unique. -/
theorem eq_of_pairwise_precedes {d : Document} (h : d.WellKeyed) {ps qs : List Position}
    (hps : ps.Pairwise d.Precedes) (hqs : qs.Pairwise d.Precedes)
    (hmem : ∀ p, p ∈ ps ↔ p ∈ qs) : ps = qs := by
  have hperm : ps.Perm qs :=
    (List.perm_ext_iff_of_nodup (nodup_of_pairwise_precedes h hps)
      (nodup_of_pairwise_precedes h hqs)).2 hmem
  apply hperm.eq_of_pairwise _ hps hqs
  intro p q _ _ hpq hqp
  exact absurd hqp (not_precedes_of_precedes h hpq)

end KidsListing.Document
