import KidsListing.Document.Path
import KidsListing.Proofs.Document.Position

/-!
# Paths along positions

Every branch is also a step, so that a position is a path, and what stands at a
position is what its path leads to.  Positions with a common front are in the order
that they have below it; in a list this is the order of the indexes.
-/

namespace KidsListing.Document

def Branch.step : Branch → Step
  | .entry key => .key key
  | .element index => .index index

theorem step_branch (d : Document) (b : Branch) : d.step b.step = (d.child? b).getD .null := by
  cases b with
  | entry key => cases d <;> rfl
  | element index =>
      cases d with
      | list elements =>
          have hnonneg : (0 : Int) ≤ index := Int.natCast_nonneg index
          simp only [Branch.step, Document.step, child?, element?, if_pos hnonneg,
            Int.toNat_natCast]
      | _ => rfl

/-- A path along a position leads to the node there, or to null. -/
theorem walk_branches (d : Document) (p : Position) :
    d.walk (p.map Branch.step) = (d.node? p).getD .null := by
  induction p generalizing d with
  | nil => rfl
  | cons b p ih =>
      rw [List.map_cons, walk_cons, step_branch, node?]
      cases d.child? b with
      | none => exact walk_null _
      | some x => exact ih x

theorem node?_append (d : Document) (p q : Position) :
    d.node? (p ++ q) = (d.node? p).bind fun x => x.node? q := by
  induction p generalizing d with
  | nil => rfl
  | cons b p ih =>
      rw [List.cons_append, node?, node?, Option.bind_assoc]
      congr 1
      funext x
      exact ih x

/-! ## Order below a common front -/

theorem precedes_append {d x : Document} {p q r : Position} (hnode : d.node? p = some x)
    (h : x.Precedes q r) : d.Precedes (p ++ q) (p ++ r) := by
  induction p generalizing d with
  | nil =>
      obtain rfl := Option.some.inj hnode
      exact h
  | cons b p ih =>
      rw [node?, Option.bind_eq_some_iff] at hnode
      obtain ⟨y, hchild, hnode⟩ := hnode
      exact .inside hchild (ih hnode)

theorem before_element {elements : List Document} {i k : Nat} (hik : i < k)
    (hk : k < elements.length) : (list elements).Before (.element i) (.element k) := by
  have hbranches : (list elements).children.map Prod.fst =
      (List.range elements.length).map Branch.element := by
    apply List.ext_getElem <;> simp [children]
  obtain ⟨more, hmore⟩ := Nat.exists_eq_add_of_lt hk
  have hfront : [i].Sublist (List.range k) := List.singleton_sublist.2 (List.mem_range.2 hik)
  have hrest : [k].Sublist ((List.range (more + 1)).map (k + ·)) := by
    rw [List.singleton_sublist, List.mem_map]
    exact ⟨0, List.mem_range.2 (Nat.succ_pos more), rfl⟩
  rw [Before, hbranches, hmore, Nat.add_assoc, List.range_add]
  exact (hfront.append hrest).map Branch.element

/-- What stands below an element comes before all that stands below a later one. -/
theorem precedes_of_lt {d : Document} {p q r : Position} {i k : Nat} (hik : i < k)
    (h : (d.node? (p ++ .element k :: r)).isSome) :
    d.Precedes (p ++ .element i :: q) (p ++ .element k :: r) := by
  rw [node?_append, Option.isSome_bind, Option.any_eq_true] at h
  obtain ⟨x, hnode, hbelow⟩ := h
  cases x with
  | list elements =>
      have hk : k < elements.length := by
        apply Nat.lt_of_not_le
        intro hle
        rw [node?, child?, List.getElem?_eq_none hle] at hbelow
        cases hbelow
      exact precedes_append hnode (.apart q r (before_element hik hk))
  | _ => cases hbelow

end KidsListing.Document
