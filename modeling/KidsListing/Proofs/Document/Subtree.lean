import KidsListing.Proofs.Document.Descent
import Mathlib.Data.List.Pairwise

/-!
# Positions of subtrees

In the pre-order of all positions those of a subtree stand together, in the order that they
have in the subtree.  Before them come the positions that precede the subtree, and a
position that comes later without being inside has all of them before it.
-/

namespace KidsListing.Document

theorem wellKeyed_of_node? {root t : Document} (h : root.WellKeyed) {p : Position}
    (hnode : root.node? p = some t) : t.WellKeyed := by
  induction p generalizing root with
  | nil =>
      obtain rfl := Option.some.inj hnode
      exact h
  | cons b p ih =>
      rw [node?, Option.bind_eq_some_iff] at hnode
      obtain ⟨x, hchild, hnode⟩ := hnode
      exact ih (wellKeyed_of_child? h hchild) hnode

/-- The positions of a subtree stand together, in the order that they have in it. -/
theorem exists_positions_eq_append {root t : Document} (h : root.WellKeyed) {p : Position}
    (hnode : root.node? p = some t) :
    ∃ before after, root.positions = before ++ t.positions.map (p ++ ·) ++ after := by
  induction p generalizing root with
  | nil =>
      obtain rfl := Option.some.inj hnode
      exact ⟨[], [], by simp⟩
  | cons b p ih =>
      rw [node?, Option.bind_eq_some_iff] at hnode
      obtain ⟨x, hchild, hnode⟩ := hnode
      obtain ⟨before, after, hx⟩ := ih (wellKeyed_of_child? h hchild) hnode
      obtain ⟨left, right, hchildren⟩ := List.append_of_mem ((child?_eq_some_iff h).1 hchild)
      refine ⟨[] :: left.flatMap (fun c => c.2.positions.map (c.1 :: ·)) ++ before.map (b :: ·),
        after.map (b :: ·) ++ right.flatMap (fun c => c.2.positions.map (c.1 :: ·)), ?_⟩
      have hblock : (t.positions.map (p ++ ·)).map (b :: ·) = t.positions.map (b :: p ++ ·) :=
        List.map_map
      rw [positions_eq, hchildren, List.flatMap_append, List.flatMap_cons, hx, List.map_append,
        List.map_append, hblock]
      simp only [List.cons_append, List.append_assoc]

/-- The first position of a subtree is that of its root. -/
theorem exists_map_positions_eq_cons (t : Document) (p : Position) :
    ∃ below, t.positions.map (p ++ ·) = p :: below :=
  ⟨_, by rw [positions_eq, List.map_cons, List.append_nil]⟩

/-- Of two nodes one comes before the other. -/
theorem precedes_or_precedes {d : Document} (h : d.WellKeyed) {p q : Position}
    (hp : (d.node? p).isSome) (hq : (d.node? q).isSome) (hne : p ≠ q) :
    d.Precedes p q ∨ d.Precedes q p := by
  have hsymm : Std.Symm fun p q => d.Precedes p q ∨ d.Precedes q p := ⟨fun _ _ => Or.symm⟩
  have hcompared : d.positions.Pairwise fun p q => d.Precedes p q ∨ d.Precedes q p :=
    (pairwise_positions h).imp Or.inl
  exact hcompared.forall ((mem_positions_iff h).2 hp) ((mem_positions_iff h).2 hq) hne

/-- The positions that come before one. -/
def earlier (root : Document) (p : Position) : List Position :=
  root.positions.takeWhile (· ≠ p)

section Earlier

variable {root t : Document} {p q : Position}

theorem earlier_eq_append {before after : List Position}
    (h : root.positions = before ++ after) (hq : q ∉ before) :
    root.earlier q = before ++ after.takeWhile (· ≠ q) := by
  rw [earlier, h, List.takeWhile_append_of_pos]
  intro r hr
  simpa using ne_of_mem_of_not_mem hr hq

/-- After the earlier positions come those of the subtree. -/
theorem positions_eq_earlier_append (h : root.WellKeyed) (hnode : root.node? p = some t) :
    ∃ later, root.positions = root.earlier p ++ t.positions.map (p ++ ·) ++ later := by
  obtain ⟨before, after, hpositions⟩ := exists_positions_eq_append h hnode
  obtain ⟨below, hblock⟩ := exists_map_positions_eq_cons t p
  have hlisted : root.positions = before ++ p :: (below ++ after) := by
    rw [hpositions, hblock, List.append_assoc, List.cons_append]
  -- No position is listed twice, so what comes before the subtree ends only there.
  have hnotBefore : p ∉ before := by
    have hnodup := nodup_of_pairwise_precedes h (pairwise_positions h)
    rw [hlisted] at hnodup
    exact fun hmem => List.disjoint_of_nodup_append hnodup hmem List.mem_cons_self
  have hearlier : root.earlier p = before := by
    rw [earlier_eq_append hlisted hnotBefore, List.takeWhile_cons_of_neg (by simp),
      List.append_nil]
  rw [hearlier]
  exact ⟨after, hpositions⟩

theorem precedes_of_mem_earlier (h : root.WellKeyed) (hnode : root.node? p = some t)
    (hq : q ∈ root.earlier p) : root.Precedes q p := by
  obtain ⟨later, hpositions⟩ := positions_eq_earlier_append h hnode
  obtain ⟨below, hblock⟩ := exists_map_positions_eq_cons t p
  have hordered := pairwise_positions h
  rw [hpositions, hblock, List.append_assoc, List.pairwise_append] at hordered
  exact hordered.2.2 q hq p List.mem_cons_self

/-- All positions of a subtree come before a later one that is not in it. -/
theorem earlier_eq_append_block (h : root.WellKeyed) (hnode : root.node? p = some t)
    (hpq : root.Precedes p q) (houtside : ¬ p <+: q) :
    ∃ between, root.earlier q = root.earlier p ++ t.positions.map (p ++ ·) ++ between := by
  obtain ⟨later, hpositions⟩ := positions_eq_earlier_append h hnode
  refine ⟨_, earlier_eq_append hpositions ?_⟩
  intro hq
  rcases List.mem_append.1 hq with hq | hq
  · exact not_precedes_of_precedes h hpq (precedes_of_mem_earlier h hnode hq)
  · obtain ⟨r, -, rfl⟩ := List.mem_map.1 hq
    exact houtside (List.prefix_append p r)

/-- A position comes before all that are strictly below it. -/
theorem earlier_eq_append_cons (h : root.WellKeyed) (hnode : root.node? p = some t)
    (b : Branch) : ∃ between, root.earlier (p ++ [b]) = root.earlier p ++ p :: between := by
  obtain ⟨later, hpositions⟩ := positions_eq_earlier_append h hnode
  obtain ⟨below, hblock⟩ := exists_map_positions_eq_cons t p
  rw [hblock, List.append_assoc, List.cons_append, List.append_cons] at hpositions
  have hbelow : root.Precedes p (p ++ [b]) := by
    have happend := precedes_append hnode (.above b [])
    rwa [List.append_nil] at happend
  refine ⟨_, (earlier_eq_append hpositions ?_).trans (List.append_cons _ _ _).symm⟩
  intro hmem
  rcases List.mem_append.1 hmem with hmem | hmem
  · exact not_precedes_of_precedes h hbelow (precedes_of_mem_earlier h hnode hmem)
  · simpa using List.mem_singleton.1 hmem

end Earlier

end KidsListing.Document
