import KidsListing.Proofs.Feed.Aggregation

/-!
# Early stopping of an aggregation

An aggregation over sources that fail at once or give a whole list stops as soon
as the target is reached.  Its items are nevertheless the first ones of those
that it would collect with no target at all, so that a lower target only cuts
off their end.  This holds exactly for the policies that never ask a source for
more than `maxLimit` elements; a pass that does so collects nothing.
-/

namespace KidsListing

/-- Fetching that fails at once or gives a whole list. -/
def Fetched.ofOutcomes {α : Type} (outcomes : String → Except Fault (List α))
    (source : String) : Fetched α :=
  match outcomes source with
  | .ok items => .ready items
  | .error fault => .raised fault

/-- No call of an aggregation by this policy asks for too much. -/
def Policy.Askable (policy : Policy) : Prop :=
  (policy.primarySources = 0 ∨ min policy.primaryCap policy.targetTotal ≤ maxLimit) ∧
    (policy.fallbackFloor ≤ 0 ∨ min policy.fallbackCap policy.targetTotal ≤ maxLimit)

namespace Aggregation

variable {α : Type}

def delivered : Except Fault (List α) → List α
  | .ok items => items
  | .error _ => []

/-- The first items of every source. -/
def capped (cap : Int) (outcomes : String → Except Fault (List α)) (sources : List String) :
    List α :=
  sources.flatMap fun source => (delivered (outcomes source)).take cap.toNat

/-- The items of the primary pass, and those of the fallback pass when they are
fewer than the floor. -/
def merged (policy : Policy) (primary fallback : List α) : List α :=
  if primary.length < policy.fallbackFloor then primary ++ fallback else primary

/-- What an aggregation would collect with no target. -/
def untargeted (policy : Policy) (outcomes : String → Except Fault (List α))
    (sources : List String) : List α :=
  merged policy
    (capped policy.primaryCap outcomes (sources.take policy.primarySources.toNat))
    (capped policy.fallbackCap outcomes (sources.drop policy.primarySources.toNat))

/-- The cap that a pass keeps to when there is some room: none of the items if the
first call already asks for too much. -/
def heededCap (cap room : Int) : Int :=
  if min cap room ≤ maxLimit then cap else 0

/-- What the primary pass collects before it is cut at the target. -/
def attainedPrimary (policy : Policy) (outcomes : String → Except Fault (List α))
    (sources : List String) : List α :=
  capped (heededCap policy.primaryCap policy.targetTotal) outcomes
    (sources.take policy.primarySources.toNat)

/-- What an aggregation collects before it is cut at the target. -/
def attained (policy : Policy) (outcomes : String → Except Fault (List α))
    (sources : List String) : List α :=
  let primary := attainedPrimary policy outcomes sources
  merged policy primary
    (capped (heededCap policy.fallbackCap (policy.targetTotal - primary.length)) outcomes
      (sources.drop policy.primarySources.toNat))

theorem take_merged_of_le {policy : Policy} (primary fallback : List α) {n : Nat}
    (h : n ≤ primary.length) : (merged policy primary fallback).take n = primary.take n := by
  rw [merged]
  split
  · exact List.take_append_of_le_length h
  · rfl

/-! ## One pass -/

theorem contribution_ofOutcomes (outcomes : String → Except Fault (List α)) (source : String)
    (limit : Nat) :
    (⟨source, limit, .ofOutcomes outcomes source⟩ : Call α).contribution =
      if limit ≤ maxLimit then (delivered (outcomes source)).take limit else [] := by
  cases houtcome : outcomes source with
  | error fault =>
      simp [Fetched.ofOutcomes, houtcome, Call.contribution, Fetched.take, delivered]
  | ok items =>
      by_cases h : maxLimit < limit
      · simp [Fetched.ofOutcomes, houtcome, Call.contribution, Fetched.take, h,
          Nat.not_le.2 h]
      · simp [Fetched.ofOutcomes, houtcome, Call.contribution, Fetched.take,
          Fetched.elements, h, Nat.not_lt.1 h, delivered]

theorem capped_zero (outcomes : String → Except Fault (List α)) (sources : List String) :
    capped 0 outcomes sources = [] := by
  simp [capped]

section Pass

variable (outcomes : String → Except Fault (List α)) (cap target : Int)

theorem contribution_nextCall_of_le {collected : Nat}
    (h : min cap (target - collected) ≤ maxLimit) (source : String) :
    (nextCall (.ofOutcomes outcomes) cap target collected source).contribution =
      ((delivered (outcomes source)).take cap.toNat).take (target - collected).toNat := by
  have hlimit : limit cap target collected ≤ maxLimit := by
    rw [limit]
    omega
  rw [nextCall, contribution_ofOutcomes, if_pos hlimit, List.take_take, limit]
  congr 1
  omega

/-- The limit of a call only cuts at the room what its cap leaves. -/
theorem contributions_pass_of_le {collected : Nat} (h : min cap (target - collected) ≤ maxLimit)
    (sources : List String) :
    contributions (pass (.ofOutcomes outcomes) cap target collected sources) =
      (capped cap outcomes sources).take (target - collected).toNat := by
  induction sources generalizing collected with
  | nil => simp [pass, capped]
  | cons source rest ih =>
      by_cases hreached : target ≤ collected
      · have hroom : (target - collected).toNat = 0 := by omega
        rw [pass_of_reached _ _ _ hreached, hroom]
        rfl
      · have hcall := contribution_nextCall_of_le outcomes cap target h source
        let own := (delivered (outcomes source)).take cap.toNat
        let room := (target - collected).toNat
        have hroom : (target - (collected + (own.take room).length : Nat)).toNat =
            room - own.length := by
          simp only [room, List.length_take]
          omega
        calc
          contributions (pass (.ofOutcomes outcomes) cap target collected (source :: rest)) =
              own.take room ++ contributions (pass (.ofOutcomes outcomes) cap target
                (collected + (own.take room).length) rest) := by
            rw [pass_cons _ _ _ hreached, contributions_cons, hcall]
          _ = own.take room ++ (capped cap outcomes rest).take (room - own.length) := by
            rw [ih (by omega), hroom]
          _ = (own ++ capped cap outcomes rest).take room := List.take_append.symm
          _ = (capped cap outcomes (source :: rest)).take room := by
            simp only [own, capped, List.flatMap_cons]

theorem contributions_pass_of_lt {collected : Nat} (h : maxLimit < min cap (target - collected))
    (sources : List String) :
    contributions (pass (.ofOutcomes outcomes) cap target collected sources) =
      [] := by
  induction sources with
  | nil => rfl
  | cons source rest ih =>
      have hcall : (nextCall (.ofOutcomes outcomes) cap target collected
          source).contribution = [] := by
        rw [nextCall, contribution_ofOutcomes, limit, if_neg (by omega)]
      rw [pass_cons _ _ _ (by omega), contributions_cons, hcall]
      exact ih

theorem contributions_pass (collected : Nat) (sources : List String) :
    contributions (pass (.ofOutcomes outcomes) cap target collected sources) =
      (capped (heededCap cap (target - collected)) outcomes sources).take
        (target - collected).toNat := by
  rw [heededCap]
  split
  · rename_i h
    exact contributions_pass_of_le outcomes cap target h sources
  · rename_i h
    rw [contributions_pass_of_lt outcomes cap target (Int.not_le.1 h), capped_zero,
      List.take_nil]

end Pass

/-! ## Both passes -/

section Run

variable {policy : Policy} (h : 0 ≤ policy.primarySources)
  (outcomes : String → Except Fault (List α)) (sources : List String)

include h

theorem take_primaryCount :
    sources.take (primaryCount policy sources) =
      sources.take policy.primarySources.toNat := by
  rw [primaryCount_of_nonneg h, List.take_eq_take_iff]
  omega

theorem drop_primaryCount :
    sources.drop (primaryCount policy sources) =
      sources.drop policy.primarySources.toNat := by
  rw [primaryCount_of_nonneg h]
  by_cases hlength : policy.primarySources.toNat ≤ sources.length
  · rw [Nat.min_eq_left hlength]
  · rw [Nat.min_eq_right (by omega), List.drop_length, List.drop_of_length_le (by omega)]

theorem contributions_primary_run :
    contributions (run policy (.ofOutcomes outcomes) sources).primary =
      (attainedPrimary policy outcomes sources).take policy.targetTotal.toNat := by
  rw [primary_run, contributions_pass, take_primaryCount h, attainedPrimary]
  simp

theorem collected_ofOutcomes :
    collected policy (.ofOutcomes outcomes) sources =
      min policy.targetTotal.toNat (attainedPrimary policy outcomes sources).length := by
  rw [collected, contributions_primary_run h, List.length_take]

variable (policy) in
/-- Stopping early is no more than cutting at the target. -/
theorem items_run_ofOutcomes :
    (run policy (.ofOutcomes outcomes) sources).items =
      (attained policy outcomes sources).take policy.targetTotal.toNat := by
  rw [items_run, contributions_primary_run h, fallbackCalls_run, collected_ofOutcomes h,
    drop_primaryCount h, attained]
  generalize attainedPrimary policy outcomes sources = primary
  by_cases hreached : policy.targetTotal ≤ primary.length
  · -- The primary items alone reach the target, and a fallback pass makes no call.
    have hstop : policy.targetTotal ≤ min policy.targetTotal.toNat primary.length := by omega
    rw [pass_of_reached _ _ _ hstop, ite_self, contributions_nil, List.append_nil,
      take_merged_of_le _ _ (by omega)]
  · have hall : min policy.targetTotal.toNat primary.length = primary.length := by omega
    have huncut : primary.take policy.targetTotal.toNat = primary :=
      List.take_of_length_le (by omega)
    rw [hall, huncut, merged]
    by_cases hfloor : policy.fallbackFloor ≤ primary.length
    · rw [if_pos hfloor, if_neg (Int.not_lt.2 hfloor), contributions_nil, List.append_nil,
        huncut]
    · have hroom : (policy.targetTotal - primary.length).toNat =
          policy.targetTotal.toNat - primary.length := by omega
      rw [if_neg hfloor, if_pos (Int.not_le.1 hfloor), contributions_pass, List.take_append,
        huncut, hroom]

omit h in
/-- A policy that never asks for too much heeds both its caps. -/
theorem attained_of_askable (hask : policy.Askable) :
    attained policy outcomes sources = untargeted policy outcomes sources := by
  obtain ⟨hprimary, hfallback⟩ := hask
  have heeded : attainedPrimary policy outcomes sources =
      capped policy.primaryCap outcomes (sources.take policy.primarySources.toNat) := by
    rcases hprimary with hnone | hprimary
    · rw [attainedPrimary, hnone]
      rfl
    · rw [attainedPrimary, heededCap, if_pos hprimary]
  rw [attained, untargeted, heeded]
  rcases hfallback with hfloor | hfallback
  · simp only [merged]
    rw [if_neg (by omega), if_neg (by omega)]
  · rw [heededCap, if_pos (by omega)]

omit h in
theorem askable_of_le (hask : policy.Askable) {lower : Int} (hlower : lower ≤ policy.targetTotal) :
    Policy.Askable { policy with targetTotal := lower } := by
  obtain ⟨hprimary, hfallback⟩ := hask
  have hmin (cap : Int) (h : min cap policy.targetTotal ≤ maxLimit) :
      min cap lower ≤ maxLimit := by omega
  exact ⟨hprimary.imp_right (hmin _), hfallback.imp_right (hmin _)⟩

/-- One source of the primary pass, which has an item, is enough to lose it. -/
theorem exists_lost_of_primary [Nonempty α] (hsome : policy.primarySources ≠ 0)
    (hlimit : ¬ min policy.primaryCap policy.targetTotal ≤ maxLimit) :
    ∃ (outcomes : String → Except Fault (List α)) (sources : List String),
      (run policy (.ofOutcomes outcomes) sources).items ≠
        (untargeted policy outcomes sources).take policy.targetTotal.toNat := by
  obtain ⟨x⟩ := ‹Nonempty α›
  refine ⟨fun _ => .ok [x], ["a"], ?_⟩
  have hpositive : 0 < policy.primarySources.toNat := by omega
  have htake : ["a"].take policy.primarySources.toNat = ["a"] :=
    List.take_of_length_le hpositive
  have hdrop : ["a"].drop policy.primarySources.toNat = [] :=
    List.drop_of_length_le hpositive
  have hcap : [x].take policy.primaryCap.toNat = [x] :=
    List.take_of_length_le (show 1 ≤ _ by omega)
  have htarget : [x].take policy.targetTotal.toNat = [x] :=
    List.take_of_length_le (show 1 ≤ _ by omega)
  rw [items_run_ofOutcomes policy h, attained, attainedPrimary, untargeted, htake, hdrop,
    heededCap, if_neg hlimit]
  simp [capped, delivered, merged, hcap, htarget]

/-- Primary sources without items and one source with an item after them are
enough to lose it. -/
theorem exists_lost_of_fallback [Nonempty α] (hfloor : ¬ policy.fallbackFloor ≤ 0)
    (hlimit : ¬ min policy.fallbackCap policy.targetTotal ≤ maxLimit) :
    ∃ (outcomes : String → Except Fault (List α)) (sources : List String),
      (run policy (.ofOutcomes outcomes) sources).items ≠
        (untargeted policy outcomes sources).take policy.targetTotal.toNat := by
  obtain ⟨x⟩ := ‹Nonempty α›
  let outcomes (source : String) : Except Fault (List α) :=
    if source = "b" then .ok [x] else .ok []
  let primary := List.replicate policy.primarySources.toNat "a"
  refine ⟨outcomes, primary ++ ["b"], ?_⟩
  have htake : (primary ++ ["b"]).take policy.primarySources.toNat = primary :=
    List.take_left' List.length_replicate
  have hdrop : (primary ++ ["b"]).drop policy.primarySources.toNat = ["b"] :=
    List.drop_left' List.length_replicate
  have hnone (cap : Int) : capped cap outcomes primary = [] := by
    simp [capped, primary, outcomes, delivered]
  have hcap : [x].take policy.fallbackCap.toNat = [x] :=
    List.take_of_length_le (show 1 ≤ _ by omega)
  have htarget : [x].take policy.targetTotal.toNat = [x] :=
    List.take_of_length_le (show 1 ≤ _ by omega)
  rw [items_run_ofOutcomes policy h, attained, attainedPrimary, untargeted, htake, hdrop,
    hnone, hnone, heededCap, if_neg (by simpa using hlimit)]
  simp [capped, outcomes, delivered, merged, Int.not_le.1 hfloor, hcap, htarget]

end Run

/-- Items are only cut at the target, exactly when no call asks for too much. -/
theorem items_run_eq_take_untargeted_iff [Nonempty α] {policy : Policy}
    (h : 0 ≤ policy.primarySources) :
    (∀ (outcomes : String → Except Fault (List α)) (sources : List String),
        (run policy (.ofOutcomes outcomes) sources).items =
            (untargeted policy outcomes sources).take policy.targetTotal.toNat ∧
          ∀ lower ≤ policy.targetTotal,
            (run { policy with targetTotal := lower } (.ofOutcomes outcomes) sources).items =
              (run policy (.ofOutcomes outcomes) sources).items.take lower.toNat) ↔
      policy.Askable := by
  constructor
  · intro hitems
    constructor
    · apply Classical.or_iff_not_imp_left.2
      intro hsome
      apply Decidable.byContradiction
      intro hlimit
      obtain ⟨outcomes, sources, hlost⟩ := exists_lost_of_primary (α := α) h hsome hlimit
      exact hlost (hitems outcomes sources).1
    · apply Classical.or_iff_not_imp_left.2
      intro hfloor
      apply Decidable.byContradiction
      intro hlimit
      obtain ⟨outcomes, sources, hlost⟩ := exists_lost_of_fallback (α := α) h hfloor hlimit
      exact hlost (hitems outcomes sources).1
  · intro hask outcomes sources
    have hitems := items_run_ofOutcomes policy h outcomes sources
    rw [attained_of_askable outcomes sources hask] at hitems
    refine ⟨hitems, fun lower hlower => ?_⟩
    have hlowered :=
      items_run_ofOutcomes { policy with targetTotal := lower } h outcomes sources
    rw [attained_of_askable outcomes sources (askable_of_le hask hlower)] at hlowered
    rw [hlowered, hitems, List.take_take, Nat.min_eq_left (by omega)]
    rfl

theorem items_run_default_eq_take_untargeted_iff :
    0 ≤ Policy.primarySources {} ∧
      ((∀ (outcomes : String → Except Fault (List Nat)) (sources : List String),
          (run {} (.ofOutcomes outcomes) sources).items =
              (untargeted {} outcomes sources).take (Policy.targetTotal {}).toNat ∧
            ∀ lower ≤ Policy.targetTotal {},
              (run { targetTotal := lower } (.ofOutcomes outcomes) sources).items =
                (run {} (.ofOutcomes outcomes) sources).items.take lower.toNat) ↔
        Policy.Askable {}) :=
  ⟨by decide, items_run_eq_take_untargeted_iff (by decide)⟩

/-- A policy by which the first call asks for one element too many. -/
def enormous : Policy :=
  { primaryCap := 9223372036854775808, targetTotal := 9223372036854775808 }

theorem items_run_enormous_lost :
    (run enormous (.ofOutcomes fun _ => .ok [1]) ["a"]).items = [] ∧
      (untargeted enormous (fun _ => .ok [1]) ["a"]).take enormous.targetTotal.toNat =
        [1] := by
  constructor <;> rfl

end Aggregation

end KidsListing
