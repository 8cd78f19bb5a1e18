import KidsListing.Proofs.Feed.CallDiscipline
import KidsListing.Proofs.Feed.EarlyStopping

/-!
# Metered calls

A call asks its source for no more elements than its cap and the room below the
target leave, and it takes all that it is given of them, or nothing at all when
the source fails in the meantime.  A fault that lies beyond the last of these
elements is never met.  All calls of an aggregation are like that exactly when
the policy never asks for more than `maxLimit` elements: a call that does so
loses the elements of a source that did not fail.
-/

namespace KidsListing

namespace Answer

variable {α : Type}

variable (ending : Option Fault) (n : Nat) (items : List α)

theorem length_sequence_le : (sequence ending n items).length ≤ n := by
  induction n generalizing items with
  | zero => exact Nat.le_refl 0
  | succ n ih =>
      cases items with
      | nil => cases ending <;> simp [sequence]
      | cons x rest => exact Nat.succ_le_succ (ih rest)

/-- A fault is met when it lies within the elements that are asked for. -/
theorem failed_mem_sequence_iff (fault : Fault) :
    .failed fault ∈ sequence ending n items ↔ ending = some fault ∧ items.length < n := by
  induction n generalizing items with
  | zero => simp [sequence]
  | succ n ih =>
      cases items with
      | nil => cases ending <;> simp [sequence, eq_comm]
      | cons x rest => simp [sequence, ih]

theorem filterMap_sequence : (sequence ending n items).filterMap element? = items.take n := by
  induction n generalizing items with
  | zero => rfl
  | succ n ih =>
      cases items with
      | nil => cases ending <;> rfl
      | cons x rest =>
          rw [sequence, List.take_succ_cons, ← ih rest]
          rfl

end Answer

namespace Fetched

variable {α : Type}

/-- A source fails at once, or it gives something without elements, or it fails
in one of the elements that are asked for. -/
def Fails (limit : Nat) : Fetched α → Prop
  | .raised _ => True
  | .notIterable => True
  | .ready _ => False
  | .onDemand items ending => ∃ fault, .failed fault ∈ Answer.sequence ending limit items

/-- The elements of a source, asked for or not. -/
def available : Fetched α → List α
  | .ready items => items
  | .onDemand items _ => items
  | _ => []

theorem fails_onDemand_iff {limit : Nat} {items : List α} {ending : Option Fault} :
    (onDemand items ending).Fails limit ↔ ending.isSome ∧ items.length < limit := by
  simp only [Fails, Answer.failed_mem_sequence_iff, exists_and_right,
    Option.isSome_iff_exists]

theorem elements_of_fails {limit : Nat} {fetched : Fetched α} (h : fetched.Fails limit) :
    ∃ fault, fetched.elements limit = .error fault := by
  cases fetched with
  | raised fault => exact ⟨fault, rfl⟩
  | notIterable => exact ⟨_, rfl⟩
  | ready items => exact h.elim
  | onDemand items ending =>
      obtain ⟨hending, hlength⟩ := fails_onDemand_iff.1 h
      cases ending with
      | none => cases hending
      | some fault => exact ⟨fault, if_pos hlength⟩

theorem elements_of_not_fails {limit : Nat} {fetched : Fetched α} (h : ¬ fetched.Fails limit) :
    fetched.elements limit = .ok (fetched.available.take limit) := by
  cases fetched with
  | raised fault => exact absurd trivial h
  | notIterable => exact absurd trivial h
  | ready items => rfl
  | onDemand items ending =>
      cases ending with
      | none => rfl
      | some fault =>
          have hlength : ¬ items.length < limit := fun hlt =>
            h (fails_onDemand_iff.2 ⟨rfl, hlt⟩)
          exact if_neg hlength

end Fetched

namespace Call

variable {α : Type}

/-- A call that keeps to the least of its cap and the room that is left, and that
takes all or nothing. -/
structure Metered (cap room : Int) (call : Call α) : Prop where
  limit : (call.limit : Int) = max 0 (min cap room)
  /-- No more elements are asked for than the limit, and those that come are pulled. -/
  asked : ∀ items ending, call.fetched = .onDemand items ending →
    (Answer.sequence ending call.limit items).length ≤ call.limit ∧
      call.pulled =
        ((Answer.sequence ending call.limit items).filterMap Answer.element?).length
  /-- What was pulled before a fault is lost. -/
  lost : call.fetched.Fails call.limit → call.contribution = []
  taken : ¬ call.fetched.Fails call.limit →
    call.contribution = call.fetched.available.take call.limit
  pulled : ∀ items ending, call.fetched = .onDemand items ending →
    ¬ call.fetched.Fails call.limit → call.pulled = call.contribution.length
  /-- A fault beyond the limit does no harm. -/
  spared : ∀ items ending, call.fetched = .onDemand items ending →
    call.limit ≤ items.length → call.contribution = items.take call.limit

theorem contribution_of_fails {call : Call α} (h : call.fetched.Fails call.limit) :
    call.contribution = [] := by
  have htake : ∃ fault, call.fetched.take call.limit = .error fault := by
    unfold Fetched.take
    split
    · exact ⟨_, rfl⟩
    · split
      · exact ⟨_, rfl⟩
      · exact Fetched.elements_of_fails h
  obtain ⟨fault, hfault⟩ := htake
  rw [contribution, hfault]

theorem contribution_of_not_fails {call : Call α} (hlimit : call.limit ≤ maxLimit)
    (h : ¬ call.fetched.Fails call.limit) :
    call.contribution = call.fetched.available.take call.limit := by
  have htake : call.fetched.take call.limit =
      .ok (call.fetched.available.take call.limit) := by
    unfold Fetched.take
    split
    · rename_i fault hraised
      rw [hraised] at h
      exact absurd trivial h
    · rw [if_neg (Nat.not_lt.2 hlimit), Fetched.elements_of_not_fails h]
  rw [contribution, htake]

/-- Beyond the largest limit nothing is taken from a source that has elements. -/
theorem contribution_of_maxLimit_lt {call : Call α} (hlimit : maxLimit < call.limit) :
    call.contribution = [] := by
  have htake : ∃ fault, call.fetched.take call.limit = .error fault := by
    unfold Fetched.take
    split
    · exact ⟨_, rfl⟩
    · exact ⟨_, if_pos hlimit⟩
  obtain ⟨fault, hfault⟩ := htake
  rw [contribution, hfault]

theorem pulled_onDemand {call : Call α} (hlimit : call.limit ≤ maxLimit) {items : List α}
    {ending : Option Fault} (h : call.fetched = .onDemand items ending) :
    call.pulled = (items.take call.limit).length := by
  rw [pulled, h, Fetched.pulled, if_neg (Nat.not_lt.2 hlimit), Answer.filterMap_sequence]

theorem contribution_of_ready_nil {call : Call α} (h : call.fetched = .ready []) :
    call.contribution = [] := by
  by_cases hlimit : call.limit ≤ maxLimit
  · have hfails : ¬ call.fetched.Fails call.limit := by
      rw [h]
      exact id
    rw [contribution_of_not_fails hlimit hfails, h]
    exact List.take_nil
  · exact contribution_of_maxLimit_lt (Nat.lt_of_not_le hlimit)

/-- A call with the right limit is metered unless the limit is too large. -/
theorem metered_of_le {cap room : Int} {call : Call α}
    (hcall : call.limit = (min cap room).toNat) (hlimit : call.limit ≤ maxLimit) :
    call.Metered cap room where
  limit := by omega
  asked items ending h := by
    refine ⟨Answer.length_sequence_le _ _ _, ?_⟩
    rw [pulled_onDemand hlimit h, Answer.filterMap_sequence]
  lost := contribution_of_fails
  taken := contribution_of_not_fails hlimit
  pulled items ending h hfails := by
    rw [pulled_onDemand hlimit h, contribution_of_not_fails hlimit hfails, h]
    rfl
  spared items ending h hlength := by
    have hfails : ¬ call.fetched.Fails call.limit := by
      rw [h, Fetched.fails_onDemand_iff]
      exact fun hfault => absurd hfault.2 (Nat.not_lt.2 hlength)
    rw [contribution_of_not_fails hlimit hfails, h]
    rfl

theorem not_metered_of_maxLimit_lt {cap room : Int} {call : Call α}
    (hlimit : maxLimit < call.limit) (hfails : ¬ call.fetched.Fails call.limit)
    (hsome : call.fetched.available ≠ []) : ¬ call.Metered cap room := by
  intro hmetered
  have htaken := hmetered.taken hfails
  rw [contribution_of_maxLimit_lt hlimit, eq_comm, List.take_eq_nil_iff] at htaken
  rcases htaken with hzero | hnil
  · omega
  · exact hsome hnil

end Call

namespace Aggregation

variable {α : Type}

/-- An aggregation whose calls are metered, each by the cap of its pass and by
the room that the calls before it leave. -/
structure Metered (policy : Policy) (fetch : String → Fetched α) (a : Aggregation α) :
    Prop where
  fetched : ∀ call ∈ a.calls, call.fetched = fetch call.source
  primary : ∀ before call after, a.primary = before ++ call :: after →
    call.Metered policy.primaryCap (policy.targetTotal - (contributions before).length)
  fallback : ∀ before call after, a.fallbackCalls = before ++ call :: after →
    call.Metered policy.fallbackCap
      (policy.targetTotal - (contributions (a.primary ++ before)).length)
  items : a.items = a.calls.flatMap Call.contribution
  total : (a.items.length : Int) ≤ max 0 policy.targetTotal

section Pass

variable (fetch : String → Fetched α) (cap target : Int)

/-- A call of a pass has the limit that the items before it leave. -/
theorem limit_of_pass_eq {collected : Nat} {sources : List String}
    {before after : List (Call α)} {call : Call α}
    (h : pass fetch cap target collected sources = before ++ call :: after) :
    call.limit = (min cap (target - (collected + (contributions before).length : Nat))).toNat := by
  have hcall : (pass fetch cap target collected sources)[before.length]? = some call := by
    rw [h, List.getElem?_append_right (Nat.le_refl _), Nat.sub_self]
    rfl
  obtain ⟨_, rfl, -, hnext⟩ := eq_nextCall_of_getElem?_pass fetch cap target hcall
  rw [h, List.take_left] at hnext
  rw [hnext]
  rfl

end Pass

section Run

variable {policy : Policy} (fetch : String → Fetched α) (sources : List String)

theorem limit_le_of_mem_primary (h : policy.Askable) {call : Call α}
    (hcall : call ∈ (run policy fetch sources).primary) : call.limit ≤ maxLimit := by
  obtain ⟨before, after, hsplit⟩ := List.append_of_mem hcall
  rw [primary_run] at hsplit
  have hlimit := limit_of_pass_eq fetch _ _ hsplit
  rcases h.1 with hnone | hcap
  · -- Without primary sources there is no primary call.
    have hcount : primaryCount policy sources = 0 := by simp [primaryCount, hnone]
    rw [hcount, List.take_zero] at hsplit
    exact absurd hsplit (by simp [pass])
  · omega

theorem limit_le_of_mem_fallbackCalls (h : policy.Askable) {call : Call α}
    (hcall : call ∈ (run policy fetch sources).fallbackCalls) : call.limit ≤ maxLimit := by
  obtain ⟨before, after, hsplit⟩ := List.append_of_mem hcall
  rw [fallbackCalls_run] at hsplit
  split at hsplit
  · simp at hsplit
  · rename_i hfloor
    have hlimit := limit_of_pass_eq fetch _ _ hsplit
    rcases h.2 with hnone | hcap
    · -- A floor that is not positive is met before there is any item.
      omega
    · omega

theorem metered_primary (h : policy.Askable) {before after : List (Call α)} {call : Call α}
    (hcall : (run policy fetch sources).primary = before ++ call :: after) :
    call.Metered policy.primaryCap
      (policy.targetTotal - (contributions before).length) := by
  have hmem : call ∈ (run policy fetch sources).primary := by simp [hcall]
  rw [primary_run] at hcall
  have hlimit := limit_of_pass_eq fetch _ _ hcall
  rw [Nat.zero_add] at hlimit
  exact Call.metered_of_le hlimit (limit_le_of_mem_primary fetch sources h hmem)

theorem metered_fallback (h : policy.Askable) {before after : List (Call α)} {call : Call α}
    (hcall : (run policy fetch sources).fallbackCalls = before ++ call :: after) :
    call.Metered policy.fallbackCap (policy.targetTotal -
      (contributions ((run policy fetch sources).primary ++ before)).length) := by
  have hmem : call ∈ (run policy fetch sources).fallbackCalls := by simp [hcall]
  rw [fallbackCalls_run] at hcall
  split at hcall
  · simp at hcall
  · have hlimit := limit_of_pass_eq fetch _ _ hcall
    rw [contributions_append, List.length_append]
    exact Call.metered_of_le hlimit (limit_le_of_mem_fallbackCalls fetch sources h hmem)

theorem metered_run (h : policy.Askable) :
    Metered policy fetch (run policy fetch sources) where
  fetched call hcall := by
    obtain ⟨i, hi⟩ := List.mem_iff_getElem?.1 hcall
    exact (getElem?_calls_run hi).2.1
  primary _ _ _ := metered_primary fetch sources h
  fallback _ _ _ := metered_fallback fetch sources h
  items := rfl
  total := by
    have hlength := length_items_run_le policy fetch sources
    omega

/-- Sources with one element each are enough to lose one in the primary pass. -/
theorem exists_not_metered_of_primary [Nonempty α] (hsome : policy.primarySources ≠ 0)
    (hlimit : ¬ min policy.primaryCap policy.targetTotal ≤ maxLimit) :
    ∃ (fetch : String → Fetched α) (sources : List String),
      ¬ Metered policy fetch (run policy fetch sources) := by
  obtain ⟨x⟩ := ‹Nonempty α›
  let fetch (_ : String) : Fetched α := .ready [x]
  let sources := List.replicate (policy.primarySources.natAbs + 1) "a"
  refine ⟨fetch, sources, fun hmetered => ?_⟩
  obtain ⟨count, hcount⟩ : ∃ count, primaryCount policy sources = count + 1 := by
    apply Nat.exists_eq_succ_of_ne_zero
    simp only [primaryCount, sources, List.length_replicate]
    split <;> omega
  obtain ⟨after, hprimary⟩ : ∃ after, (run policy fetch sources).primary =
      [] ++ nextCall fetch policy.primaryCap policy.targetTotal 0 "a" :: after := by
    rw [primary_run, hcount]
    exact ⟨_, pass_cons fetch _ _ (by omega) _ _⟩
  refine Call.not_metered_of_maxLimit_lt ?_ id ?_ (hmetered.primary _ _ _ hprimary)
  · simp only [nextCall, limit]
    omega
  · exact List.cons_ne_nil x []

/-- A source with an element, after primary sources without any, is enough to
lose one in the fallback pass. -/
theorem exists_not_metered_of_fallback [Nonempty α] (hfloor : ¬ policy.fallbackFloor ≤ 0)
    (hlimit : ¬ min policy.fallbackCap policy.targetTotal ≤ maxLimit) :
    ∃ (fetch : String → Fetched α) (sources : List String),
      ¬ Metered policy fetch (run policy fetch sources) := by
  obtain ⟨x⟩ := ‹Nonempty α›
  let fetch (source : String) : Fetched α := .ready (if source = "b" then [x] else [])
  let empty := List.replicate policy.primarySources.toNat "a"
  refine ⟨fetch, empty ++ ["b"], fun hmetered => ?_⟩
  have hcount : primaryCount policy (empty ++ ["b"]) = empty.length := by
    simp only [primaryCount, empty, List.length_append, List.length_replicate,
      List.length_singleton]
    split <;> omega
  have hcollected : collected policy fetch (empty ++ ["b"]) = 0 := by
    rw [collected, List.length_eq_zero_iff, contributions, List.flatMap_eq_nil_iff]
    intro call hcall
    rw [primary_run, hcount, List.take_left] at hcall
    obtain ⟨i, hi⟩ := List.mem_iff_getElem?.1 hcall
    obtain ⟨hsource, hfetched, -⟩ := getElem?_pass fetch _ _ hi
    have hempty : call.source = "a" := List.eq_of_mem_replicate (List.mem_of_getElem? hsource)
    rw [hempty] at hfetched
    exact Call.contribution_of_ready_nil hfetched
  have hfallback : (run policy fetch (empty ++ ["b"])).fallbackCalls =
      [] ++ nextCall fetch policy.fallbackCap policy.targetTotal 0 "b" :: [] := by
    rw [fallbackCalls_run, hcollected, Int.natCast_zero, if_neg hfloor, hcount,
      List.drop_left]
    exact pass_cons fetch _ _ (by omega) _ _
  refine Call.not_metered_of_maxLimit_lt ?_ id ?_ (hmetered.fallback _ _ _ hfallback)
  · simp only [nextCall, limit]
    omega
  · exact List.cons_ne_nil x []

end Run

/-- All calls are metered, whatever the sources are and give, exactly when the
policy never asks for too much. -/
theorem run_metered_iff [Nonempty α] (policy : Policy) :
    (∀ (fetch : String → Fetched α) (sources : List String),
        Metered policy fetch (run policy fetch sources)) ↔
      policy.Askable := by
  constructor
  · intro hmetered
    constructor
    · apply Classical.or_iff_not_imp_left.2
      intro hsome
      apply Decidable.byContradiction
      intro hlimit
      obtain ⟨fetch, sources, hlost⟩ := exists_not_metered_of_primary (α := α) hsome hlimit
      exact hlost (hmetered fetch sources)
    · apply Classical.or_iff_not_imp_left.2
      intro hfloor
      apply Decidable.byContradiction
      intro hlimit
      obtain ⟨fetch, sources, hlost⟩ := exists_not_metered_of_fallback (α := α) hfloor hlimit
      exact hlost (hmetered fetch sources)
  · intro h fetch sources
    exact metered_run fetch sources h

/-- Sequences with a fault after two elements and after four. -/
def midwayFaults (source : String) : Fetched Nat :=
  .onDemand (if source = "a" then [1, 2] else [3, 4, 5, 6]) (some (.defect .emptyList))

/-- Four elements are asked for: the first sequence is lost and the second one is
taken without meeting its fault. -/
theorem run_midwayFaults_metered :
    Policy.Askable {} ∧ Metered {} midwayFaults (run {} midwayFaults ["a", "b"]) ∧
      (run {} midwayFaults ["a", "b"]).items = [3, 4, 5, 6] := by
  have hask : Policy.Askable {} := ⟨.inr (by decide), .inr (by decide)⟩
  exact ⟨hask, (run_metered_iff {}).2 hask midwayFaults ["a", "b"], by rfl⟩

/-- A sequence that does not fail is lost by a limit that is too large. -/
theorem run_enormous_not_metered :
    (run enormous (fun _ => .onDemand [1] none) ["a"]).items = [] ∧
      ¬ Metered enormous (fun _ => .onDemand [1] none)
        (run enormous (fun _ => .onDemand [1] none) ["a"]) := by
  refine ⟨by rfl, fun hmetered => ?_⟩
  refine absurd (hmetered.primary [] _ [] rfl)
    (Call.not_metered_of_maxLimit_lt (by decide) ?_ (List.cons_ne_nil 1 []))
  rw [Fetched.fails_onDemand_iff]
  exact fun hfault => absurd hfault.1 Bool.false_ne_true

end Aggregation

end KidsListing
