import KidsListing.Document.Equality
import KidsListing.Proofs.Document.Within

/-!
# Walking within bounds

Access to a part of a document fails when the document is no container of the right kind,
or when a list has no element at the position.  A walk looks at what it has before every
access and ends at the first null, so that no access of it fails.  Walks compose, a position
and the one that counts from the end lead to one element, and a walk gives null exactly when
it starts at null or one of its steps leads nowhere.
-/

namespace KidsListing.Document

/-! ## Accesses that can fail -/

inductive AccessFault where
  | notList
  | notObject
  | outOfBounds
  deriving DecidableEq, Repr

def isList : Document → Bool
  | .list _ => true
  | _ => false

def length : Document → Except AccessFault Nat
  | .list elements => .ok elements.length
  | _ => .error .notList

/-- The element of a list at a position; a negative one has the length added to it, and must
then be an index all the same. -/
def elementAt (position : Int) : Document → Except AccessFault Document
  | .list elements =>
      let index := if position < 0 then elements.length + position else position
      if index < 0 then .error .outOfBounds
      else elements[index.toNat]?.elim (.error .outOfBounds) .ok
  | _ => .error .notList

/-- The value of an object under a key, or null. -/
def valueUnder (name : String) : Document → Except AccessFault Document
  | .object entries => .ok ((lookup name entries).getD .null)
  | _ => .error .notObject

/-- A step that looks at the document before each access to it. -/
def guardedStep (d : Document) : Step → Except AccessFault Document
  | .key name => if d.isObject then d.valueUnder name else .ok .null
  | .index position =>
      if d.isList then do
        let count ← d.length
        if -count ≤ position ∧ position < count then d.elementAt position else .ok .null
      else .ok .null

/-- A walk of guarded steps that ends at the first null. -/
def guardedWalk (d : Document) : List Step → Except AccessFault Document
  | [] => .ok d
  | s :: rest => do
      let x ← d.guardedStep s
      if x = .null then return .null
      x.guardedWalk rest

/-! ## Elements of a list -/

section Elements

variable (elements : List Document)

theorem element?_natCast (k : Nat) : element? elements k = elements[k]? := by
  rw [element?, if_pos (Int.natCast_nonneg k), Int.toNat_natCast]

/-- Counted from the end, positions are shifted by the length. -/
theorem element?_sub_length (k : Fin elements.length) :
    element? elements ((k : Int) - elements.length) = some elements[k] := by
  have hk := k.isLt
  have hnegative : ¬ (0 : Int) ≤ (k : Int) - elements.length := by omega
  have hwithin : -((k : Int) - elements.length) ≤ elements.length := by omega
  have hindex : ((elements.length : Int) + ((k : Int) - elements.length)).toNat = k := by omega
  rw [element?, if_neg hnegative, if_pos hwithin, hindex]
  exact List.getElem?_eq_getElem hk

theorem element?_eq_none_iff (position : Int) :
    element? elements position = none ↔
      position < -elements.length ∨ elements.length ≤ position := by
  rw [element?]
  split
  · rw [List.getElem?_eq_none_iff]
    omega
  · split
    · rw [List.getElem?_eq_none_iff]
      omega
    · simp only [true_iff]
      omega

/-- The access fails just where there is no element. -/
theorem elementAt_list (position : Int) :
    elementAt position (.list elements) =
      (element? elements position).elim (.error .outOfBounds) .ok := by
  rw [elementAt, element?]
  by_cases hnonneg : 0 ≤ position
  · simp only [if_neg (Int.not_lt.2 hnonneg), if_pos hnonneg]
  · have hnegative := Int.not_le.1 hnonneg
    by_cases hwithin : -position ≤ elements.length
    · have hindex : ¬ (elements.length : Int) + position < 0 := by omega
      simp only [if_pos hnegative, if_neg hnonneg, if_pos hwithin, if_neg hindex]
    · have hindex : (elements.length : Int) + position < 0 := by omega
      simp only [if_pos hnegative, if_neg hnonneg, if_neg hwithin, if_pos hindex,
        Option.elim_none]

end Elements

/-! ## No access fails -/

theorem guardedStep_eq (d : Document) (s : Step) : d.guardedStep s = .ok (d.step s) := by
  cases s with
  | key name => cases d <;> rfl
  | index position =>
      cases d with
      | list elements =>
          change (if -(elements.length : Int) ≤ position ∧ position < elements.length then
              elementAt position (.list elements)
            else .ok .null) = .ok ((element? elements position).getD .null)
          rw [elementAt_list]
          have hnone := element?_eq_none_iff elements position
          split
          · rename_i hbounds
            cases helement : element? elements position with
            | none =>
                have houtside := hnone.1 helement
                omega
            | some x => rfl
          · rename_i hbounds
            rw [hnone.2 (by omega)]
            rfl
      | _ => rfl

theorem guardedWalk_eq (d : Document) (path : List Step) :
    d.guardedWalk path = .ok (d.walk path) := by
  induction path generalizing d with
  | nil => rfl
  | cons s rest ih =>
      rw [guardedWalk, guardedStep_eq, walk_cons]
      change (if d.step s = .null then .ok .null else (d.step s).guardedWalk rest) = _
      split
      · rename_i hnull
        rw [hnull, walk_null]
      · exact ih _

/-! ## Where a walk ends in null -/

/-- Why a step gives null: the document is no container of the right kind, has nothing
there, or has null there. -/
inductive LeadsNowhere : Document → Step → Prop
  | notObject {d : Document} {name : String} (h : d.isObject = false) :
      LeadsNowhere d (.key name)
  | notList {d : Document} {position : Int} (h : d.isList = false) :
      LeadsNowhere d (.index position)
  | noEntry {entries : List (String × Document)} {name : String}
      (h : name ∉ entries.map Prod.fst) : LeadsNowhere (.object entries) (.key name)
  | noElement {elements : List Document} {position : Int}
      (h : position < -elements.length ∨ elements.length ≤ position) :
      LeadsNowhere (.list elements) (.index position)
  | nullEntry {entries : List (String × Document)} {name : String}
      (h : lookup name entries = some .null) : LeadsNowhere (.object entries) (.key name)
  | nullElement {elements : List Document} {position : Int}
      (h : element? elements position = some .null) :
      LeadsNowhere (.list elements) (.index position)

theorem getD_null_eq_null_iff {x? : Option Document} :
    x?.getD .null = .null ↔ x? = none ∨ x? = some .null := by
  cases x? <;> simp

theorem step_eq_null_iff {d : Document} {s : Step} :
    d.step s = .null ↔ LeadsNowhere d s := by
  constructor
  · intro h
    cases s with
    | key name =>
        cases d with
        | object entries =>
            rcases getD_null_eq_null_iff.1 h with hnone | hnull
            · exact .noEntry (lookup_eq_none_iff.1 hnone)
            · exact .nullEntry hnull
        | _ => exact .notObject rfl
    | index position =>
        cases d with
        | list elements =>
            rcases getD_null_eq_null_iff.1 h with hnone | hnull
            · exact .noElement ((element?_eq_none_iff elements position).1 hnone)
            · exact .nullElement hnull
        | _ => exact .notList rfl
  · intro h
    cases h with
    | @notObject d name h =>
        cases d with
        | object entries => cases h
        | _ => rfl
    | @notList d position h =>
        cases d with
        | list elements => cases h
        | _ => rfl
    | noEntry h => exact getD_null_eq_null_iff.2 (.inl (lookup_eq_none_iff.2 h))
    | noElement h => exact getD_null_eq_null_iff.2 (.inl ((element?_eq_none_iff _ _).2 h))
    | nullEntry h => exact getD_null_eq_null_iff.2 (.inr h)
    | nullElement h => exact getD_null_eq_null_iff.2 (.inr h)

/-- The step that leads nowhere is the first one after which there is null. -/
theorem walk_eq_null_iff {d : Document} {path : List Step} :
    d.walk path = .null ↔ d = .null ∨ ∃ front s rest, path = front ++ s :: rest ∧
      d.walk front ≠ .null ∧ LeadsNowhere (d.walk front) s := by
  constructor
  · intro h
    induction path generalizing d with
    | nil => exact .inl h
    | cons s rest ih =>
        by_cases hd : d = .null
        · exact .inl hd
        rcases ih h with hnull | ⟨front, t, rest, rfl, hsome, hnowhere⟩
        · exact .inr ⟨[], s, rest, rfl, hd, step_eq_null_iff.1 hnull⟩
        · exact .inr ⟨s :: front, t, rest, rfl, hsome, hnowhere⟩
  · rintro (rfl | ⟨front, s, rest, rfl, -, hnowhere⟩)
    · exact walk_null path
    · rw [walk_append, walk_cons, step_eq_null_iff.2 hnowhere, walk_null]

/-- Walks compose, and none of their accesses fails.  The positions of a list are those from
minus its length up to below it, the negative ones for the same elements once more, and what
is not among them leads to null; a walk ends in null only for this or a like reason. -/
theorem walk_composes_within_bounds (d : Document) (p q : List Step) :
    d.walk (p ++ q) = (d.walk p).walk q ∧
      d.guardedWalk p = .ok (d.walk p) ∧
      (∀ (elements : List Document) (k : Fin elements.length),
        (list elements).step (.index k) = elements[k] ∧
          (list elements).step (.index (k - elements.length)) = elements[k]) ∧
      (∀ (elements : List Document) (position : Int),
        ¬ (-elements.length ≤ position ∧ position < elements.length) →
          (list elements).step (.index position) = .null) ∧
      (d.walk p = .null ↔ d = .null ∨ ∃ front s rest, p = front ++ s :: rest ∧
        d.walk front ≠ .null ∧ LeadsNowhere (d.walk front) s) := by
  refine ⟨walk_append d p q, guardedWalk_eq d p, ?_, ?_, walk_eq_null_iff⟩
  · intro elements k
    have hfront : element? elements (k : Int) = some elements[k] :=
      (element?_natCast elements k).trans (List.getElem?_eq_getElem k.isLt)
    constructor
    · rw [step, hfront, Option.getD_some]
    · rw [step, element?_sub_length, Option.getD_some]
  · intro elements position houtside
    exact step_eq_null_iff.2 (.noElement (by omega))

/-- A list with a null before a pair of numbers. -/
def nullAndPair : Document :=
  .object [("runs", .list [.null, .list [.int 1, .int 2]])]

/-- The pair is reached from the end, and there is nothing right before its first number. -/
theorem walk_nullAndPair_within_bounds :
    nullAndPair.walk ["runs", .index (-1), .index 0] = .int 1 ∧
      nullAndPair.guardedWalk ["runs", .index (-1)] = .ok (.list [.int 1, .int 2]) ∧
      ¬ (-2 ≤ (-3 : Int) ∧ (-3 : Int) < 2) ∧
      (list [.int 1, .int 2]).step (.index (-3)) = .null := by
  obtain ⟨happend, hguarded, -, houtside, -⟩ :=
    walk_composes_within_bounds nullAndPair ["runs", .index (-1)] [.index 0]
  exact ⟨happend, hguarded, by decide, houtside [.int 1, .int 2] (-3) (by decide)⟩

example : nullAndPair.walk ["runs", .index 0, .index 0] = .null := by
  rfl

end KidsListing.Document
