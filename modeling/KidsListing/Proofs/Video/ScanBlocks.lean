import KidsListing.Proofs.Document.Subtree
import KidsListing.Proofs.Video.Scan

/-!
# Blocks of the full scan

The scan of a subtree stands as one block in the scan of the whole document, after the
payloads of all hosts that come before the subtree.  Blocks of subtrees of which neither
lies inside the other are disjoint and in the order of their positions, and the block of a
payload comes after the payload itself.
-/

namespace KidsListing.Scan

open KidsListing.Document (Branch Position Precedes node? earlier)

/-- How many payloads a scan gives before it comes to a position. -/
def offset (marker : String) (root : Document) (p : Position) : Nat :=
  ((root.earlier p).filterMap (payloadAt? marker root)).length

section Blocks

variable (marker : String) {root t : Document} {p q : Position}

theorem payloadAt?_append (hnode : root.node? p = some t) (r : Position) :
    payloadAt? marker root (p ++ r) = payloadAt? marker t r := by
  rw [payloadAt?, payloadAt?, Document.node?_append, hnode, Option.bind_some]

/-- A scan of a subtree is what the whole scan gives at the positions of the subtree. -/
theorem filterMap_block (h : root.WellKeyed) (hnode : root.node? p = some t) :
    (t.positions.map (p ++ ·)).filterMap (payloadAt? marker root) = payloads marker t := by
  rw [payloads_eq_filterMap_positions marker (Document.wellKeyed_of_node? h hnode),
    List.filterMap_map]
  congr 1
  funext r
  exact payloadAt?_append marker hnode r

/-- The scan of a subtree is the block at its offset. -/
theorem payloads_prefix_drop_offset (h : root.WellKeyed) (hnode : root.node? p = some t) :
    payloads marker t <+: (payloads marker root).drop (offset marker root p) := by
  obtain ⟨later, hpositions⟩ := Document.positions_eq_earlier_append h hnode
  rw [payloads_eq_filterMap_positions marker h, hpositions, List.append_assoc,
    List.filterMap_append, List.filterMap_append, filterMap_block marker h hnode, offset,
    List.drop_left]
  exact List.prefix_append _ _

/-- The block of a subtree ends before that of a later one outside of it starts. -/
theorem offset_add_length_le (h : root.WellKeyed) (hnode : root.node? p = some t)
    (hpq : root.Precedes p q) (houtside : ¬ p <+: q) :
    offset marker root p + (payloads marker t).length ≤ offset marker root q := by
  obtain ⟨between, hearlier⟩ := Document.earlier_eq_append_block h hnode hpq houtside
  rw [offset, offset, hearlier, List.filterMap_append, List.filterMap_append,
    filterMap_block marker h hnode, List.length_append, List.length_append]
  exact Nat.le_add_right _ _

variable {marker}

theorem node?_payload {payload : Document} (hhost : Hosts marker root p payload) :
    root.node? (p ++ [.entry marker]) = some payload := by
  obtain ⟨entries, hnode, hlookup, -⟩ := hhost
  rw [Document.node?_append, hnode, Option.bind_some, node?, Document.child?, hlookup]
  rfl

/-- A host gives its payload first of all in its block. -/
theorem getElem?_offset {payload : Document} (h : root.WellKeyed)
    (hhost : Hosts marker root p payload) :
    (payloads marker root)[offset marker root p]? = some payload := by
  obtain ⟨entries, hnode, hlookup, hobject⟩ := hhost
  obtain ⟨rest, hblock⟩ := payloads_prefix_drop_offset marker h hnode
  have hown : payload? marker (.object entries) = some payload :=
    payload?_eq_some_iff.2 ⟨entries, rfl, hlookup, hobject⟩
  rw [← List.head?_drop, ← hblock, payloads_eq, hown]
  rfl

/-- The block of a payload comes after the payload itself. -/
theorem offset_lt_offset_payload {payload : Document} (h : root.WellKeyed)
    (hhost : Hosts marker root p payload) :
    offset marker root p < offset marker root (p ++ [.entry marker]) := by
  obtain ⟨entries, hnode, -⟩ := id hhost
  obtain ⟨between, hearlier⟩ := Document.earlier_eq_append_cons h hnode (.entry marker)
  rw [offset, offset, hearlier, List.filterMap_append,
    List.filterMap_cons_some (payloadAt?_eq_some_iff.2 hhost), List.length_append,
    List.length_cons]
  omega

end Blocks

/-- The scan of every subtree stands as one block in the scan of the whole document, and so
does that of every payload, after the payload itself; whatever it gives, the scan of the
whole document gives as the payload of the same host.  Of two subtrees of which neither lies
inside the other, the block of the earlier one ends before that of the later one starts. -/
theorem payloads_in_blocks (marker : String) {root : Document} (h : root.WellKeyed) :
    (∀ p t, root.node? p = some t →
        payloads marker t <+: (payloads marker root).drop (offset marker root p)) ∧
      (∀ p q t u, root.node? p = some t → root.node? q = some u → ¬ p <+: q → ¬ q <+: p →
        root.Precedes p q ∧
            offset marker root p + (payloads marker t).length ≤ offset marker root q ∨
          root.Precedes q p ∧
            offset marker root q + (payloads marker u).length ≤ offset marker root p) ∧
      (∀ p payload, Hosts marker root p payload →
        (payloads marker root)[offset marker root p]? = some payload ∧
          offset marker root p < offset marker root (p ++ [.entry marker]) ∧
          payloads marker payload <+:
            (payloads marker root).drop (offset marker root (p ++ [.entry marker])) ∧
          ∀ r inside, Hosts marker payload r inside →
            Hosts marker root (p ++ .entry marker :: r) inside) ∧
      ∀ payload ∈ payloads marker root, payloads marker payload ⊆ payloads marker root := by
  have hblock {p : Position} {t : Document} (hnode : root.node? p = some t) :
      payloads marker t <+: (payloads marker root).drop (offset marker root p) :=
    payloads_prefix_drop_offset marker h hnode
  refine ⟨fun p t => hblock, ?_, ?_, ?_⟩
  · intro p q t u hp hq hpq hqp
    have hne : p ≠ q := fun heq => hpq (heq ▸ List.prefix_rfl)
    have hpSome : (root.node? p).isSome := by rw [hp]; rfl
    have hqSome : (root.node? q).isSome := by rw [hq]; rfl
    rcases Document.precedes_or_precedes h hpSome hqSome hne with horder | horder
    · exact .inl ⟨horder, offset_add_length_le marker h hp horder hpq⟩
    · exact .inr ⟨horder, offset_add_length_le marker h hq horder hqp⟩
  · intro p payload hhost
    have hpayload := node?_payload hhost
    refine ⟨getElem?_offset h hhost, offset_lt_offset_payload h hhost, hblock hpayload, ?_⟩
    intro r inside hinside
    have hsame := payloadAt?_append marker hpayload r
    rw [List.append_assoc, List.singleton_append] at hsame
    rw [← payloadAt?_eq_some_iff, hsame]
    exact payloadAt?_eq_some_iff.2 hinside
  · intro payload hmem
    rw [payloads_eq_filterMap_positions marker h, List.mem_filterMap] at hmem
    obtain ⟨p, -, hpayload⟩ := hmem
    have hinner := hblock (node?_payload (payloadAt?_eq_some_iff.1 hpayload))
    exact fun inside hinside => List.mem_of_mem_drop (hinner.subset hinside)

/-- A subtree inside the payload of the root has a block of one payload, and this ends before
the block of the last entry starts. -/
theorem payloads_of_nestedHosts_in_blocks :
    nestedHosts.WellKeyed ∧
      nestedHosts.node? [.entry "v", .entry "more"] =
        some (.object [("v", .object [("id", .int 3)])]) ∧
      [.object [("id", .int 3)]] <+:
        (payloads "v" nestedHosts).drop
          (offset "v" nestedHosts [.entry "v", .entry "more"]) ∧
      (nestedHosts.Precedes [.entry "v", .entry "more"] [.entry "after"] ∧
          offset "v" nestedHosts [.entry "v", .entry "more"] + 1 ≤
            offset "v" nestedHosts [.entry "after"] ∨
        nestedHosts.Precedes [.entry "after"] [.entry "v", .entry "more"] ∧
          offset "v" nestedHosts [.entry "after"] + 1 ≤
            offset "v" nestedHosts [.entry "v", .entry "more"]) :=
  have hblocks := payloads_in_blocks "v" wellKeyed_nestedHosts
  ⟨wellKeyed_nestedHosts, rfl, hblocks.1 [.entry "v", .entry "more"] _ rfl,
    hblocks.2.1 [.entry "v", .entry "more"] [.entry "after"] _ _ rfl rfl (by decide)
      (by decide)⟩

example : offset "v" nestedHosts [.entry "before"] = 1 := by
  cbv

end KidsListing.Scan
