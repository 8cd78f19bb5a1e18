import KidsListing.Proofs.Feed.Aggregation
import Mathlib.Data.List.Forall2

/-!
# Sources that change from call to call

To an aggregation a source is a label.  What is collected depends on what the sources give,
one after the other, and the names only go into the calls.  Sources that give something else
at every turn are thus collected like as many labels, so that what holds of every run holds of
them too.
-/

namespace KidsListing

variable {α : Type}

/-- A source with what fetching it gives at its turn. -/
structure Turn (α : Type) where
  source : String
  fetched : Fetched α

/-- A label stands for a turn, by the names and by what is fetched. -/
structure Turn.StoodFor (fetch : String → Fetched α) (name : String → String) (label : String)
    (turn : Turn α) : Prop where
  source : name label = turn.source
  fetched : fetch label = turn.fetched

def Call.named (name : String → String) (call : Call α) : Call α :=
  { call with source := name call.source }

namespace Aggregation

/-- The calls of one pass over some turns, which stops once the target is reached. -/
def passTurns (cap target : Int) : Nat → List (Turn α) → List (Call α)
  | _, [] => []
  | collected, turn :: rest =>
      if target ≤ collected then []
      else
        let call : Call α := ⟨turn.source, limit cap target collected, turn.fetched⟩
        call :: passTurns cap target (collected + call.contribution.length) rest

/-- An aggregation of sources that may give something else at every turn. -/
def runTurns (policy : Policy) (turns : List (Turn α)) : Aggregation α :=
  let count := primaryCount policy (turns.map Turn.source)
  let primary := passTurns policy.primaryCap policy.targetTotal 0 (turns.take count)
  let remaining := turns.drop count
  let collected := (contributions primary).length
  if policy.fallbackFloor ≤ collected ∨ remaining = [] then ⟨primary, none⟩
  else
    ⟨primary, some (remaining.length,
      passTurns policy.fallbackCap policy.targetTotal collected remaining)⟩

def named (name : String → String) (a : Aggregation α) : Aggregation α where
  primary := a.primary.map (Call.named name)
  fallback := a.fallback.map fun pass => (pass.1, pass.2.map (Call.named name))

theorem contributions_map_named (name : String → String) (calls : List (Call α)) :
    contributions (calls.map (Call.named name)) = contributions calls := by
  rw [contributions, contributions, List.flatMap_map]
  rfl

theorem items_named (name : String → String) (a : Aggregation α) :
    (a.named name).items = a.items := by
  obtain ⟨primary, fallback⟩ := a
  cases fallback with
  | none => simp [items, calls, fallbackCalls, named, contributions_map_named]
  | some pass => simp [items, calls, fallbackCalls, named, contributions_map_named]

section Labels

variable {fetch : String → Fetched α} {name : String → String} {labels : List String}
  {turns : List (Turn α)} (h : List.Forall₂ (Turn.StoodFor fetch name) labels turns)
include h

theorem passTurns_of_labels (cap target : Int) (collected : Nat) :
    passTurns cap target collected turns =
      (pass fetch cap target collected labels).map (Call.named name) := by
  induction h generalizing collected with
  | nil => rfl
  | @cons label turn labels turns hturn _ ih =>
      rw [passTurns, pass]
      split
      · rfl
      · simp only [List.map_cons, Call.named, hturn.source, hturn.fetched, ih]
        rfl

/-- The turns are collected as the labels that stand for them. -/
theorem runTurns_of_labels (policy : Policy) :
    runTurns policy turns = (run policy fetch labels).named name := by
  have hcount : primaryCount policy (turns.map Turn.source) = primaryCount policy labels := by
    simp only [primaryCount, List.length_map, h.length_eq]
  have hprimary := List.forall₂_take (primaryCount policy labels) h
  have hremaining := List.forall₂_drop (primaryCount policy labels) h
  have hlength := hremaining.length_eq
  have hnone : turns.drop (primaryCount policy labels) = [] ↔
      labels.drop (primaryCount policy labels) = [] := by
    rw [← List.length_eq_zero_iff, ← List.length_eq_zero_iff, hlength]
  simp only [runTurns, run, hcount, passTurns_of_labels hprimary, passTurns_of_labels hremaining,
    contributions_map_named, hnone, hlength]
  split <;> rfl

end Labels

/-- Some labels stand for any turns: different texts, of which the length tells the turn. -/
theorem exists_labels (turns : List (Turn α)) :
    ∃ fetch name labels, List.Forall₂ (Turn.StoodFor fetch name) labels turns := by
  let label (i : Nat) : String := String.ofList (List.replicate i 'x')
  have hlength (i : Nat) : (label i).length = i := by
    rw [String.length_ofList, List.length_replicate]
  refine ⟨fun text => (turns[text.length]?.map Turn.fetched).getD .notIterable,
    fun text => (turns[text.length]?.map Turn.source).getD "",
    (List.range turns.length).map label, ?_⟩
  rw [List.forall₂_map_left_iff, List.forall₂_iff_get]
  refine ⟨List.length_range, ?_⟩
  intro i _ hi
  constructor <;> simp [hlength, List.getElem?_eq_getElem hi]

theorem named_id (a : Aggregation α) : a.named id = a := by
  obtain ⟨primary, fallback⟩ := a
  have hcalls (calls : List (Call α)) : calls.map (Call.named id) = calls := List.map_id _
  cases fallback <;> simp [named, hcalls]

/-- Sources that do not change give the same at every turn. -/
theorem runTurns_map (policy : Policy) (fetch : String → Fetched α) (sources : List String) :
    runTurns policy (sources.map fun source => ⟨source, fetch source⟩) =
      run policy fetch sources := by
  have hlabels : List.Forall₂ (Turn.StoodFor fetch id) sources
      (sources.map fun source => ⟨source, fetch source⟩) := by
    rw [List.forall₂_map_right_iff, List.forall₂_same]
    exact fun _ _ => ⟨rfl, rfl⟩
  rw [runTurns_of_labels hlabels, named_id]

/-- Whatever the sources give at their turns, they are collected as in some run of the same
policy, call by call and up to the names alone. -/
theorem runTurns_is_run (policy : Policy) (turns : List (Turn α)) :
    ∃ fetch name labels, runTurns policy turns = (run policy fetch labels).named name ∧
      (runTurns policy turns).items = (run policy fetch labels).items := by
  obtain ⟨fetch, name, labels, hlabels⟩ := exists_labels turns
  have hrun := runTurns_of_labels hlabels policy
  exact ⟨fetch, name, labels, hrun, by rw [hrun, items_named]⟩

/-- Turns do not collect beyond the target either. -/
theorem length_items_runTurns_le (policy : Policy) (turns : List (Turn α)) :
    (runTurns policy turns).items.length ≤ policy.targetTotal.toNat := by
  obtain ⟨fetch, name, labels, -, hitems⟩ := runTurns_is_run policy turns
  rw [hitems]
  exact length_items_run_le policy fetch labels

end Aggregation

end KidsListing
