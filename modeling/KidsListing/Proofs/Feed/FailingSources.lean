import KidsListing.Feed.Listings
import KidsListing.Proofs.Feed.Metering
import KidsListing.Proofs.Run
import Mathlib.Data.List.Nodup

/-!
# Failing sources

A source that fails is as good as an empty one, but for a warning.  When every
source that failed in an aggregation gives the empty list instead, the calls and
the items are the same, and the log is the same without the warnings.  This
holds exactly for the policies that never ask for more than `maxLimit`
elements: a call that does so is warned of although its source did not fail.
-/

namespace KidsListing

namespace Answer

variable {α : Type}

def fault? : Answer α → Option Fault
  | .failed fault => some fault
  | _ => none

/-- The one fault that asking for elements may meet is the one at the end. -/
theorem findSome?_sequence (ending : Option Fault) (n : Nat) (items : List α) :
    (sequence ending n items).findSome? fault? = if items.length < n then ending else none := by
  induction n generalizing items with
  | zero => rfl
  | succ n ih =>
      cases items with
      | nil => cases ending <;> rfl
      | cons x rest =>
          rw [sequence, List.findSome?_cons, List.length_cons]
          simp only [fault?, ih rest, Nat.succ_lt_succ_iff]

end Answer

namespace Fetched

variable {α : Type}

/-- How a source fails of which so many elements are asked for: at once, for want
of elements, or in one of those that are asked for. -/
def failure? (limit : Nat) : Fetched α → Option Fault
  | .raised fault => some fault
  | .notIterable => some (.defect .notIterable)
  | .ready _ => none
  | .onDemand items ending => (Answer.sequence ending limit items).findSome? Answer.fault?

theorem fails_iff {limit : Nat} {fetched : Fetched α} :
    fetched.Fails limit ↔ (fetched.failure? limit).isSome := by
  cases fetched with
  | raised fault => exact iff_of_true trivial rfl
  | notIterable => exact iff_of_true trivial rfl
  | ready items => exact iff_of_false id Bool.false_ne_true
  | onDemand items ending =>
      rw [fails_onDemand_iff, failure?, Answer.findSome?_sequence]
      split <;> simp [*]

theorem elements_of_failure?_eq_some {limit : Nat} {fetched : Fetched α} {fault : Fault}
    (h : fetched.failure? limit = some fault) : fetched.elements limit = .error fault := by
  cases fetched with
  | raised other => rw [elements, Option.some.inj h]
  | notIterable => rw [elements, Option.some.inj h]
  | ready items => cases h
  | onDemand items ending =>
      rw [failure?, Answer.findSome?_sequence] at h
      split at h
      · rename_i hlength
        rw [h]
        exact if_pos hlength
      · cases h

end Fetched

namespace Call

variable {α : Type}

def failure? (call : Call α) : Option Fault :=
  call.fetched.failure? call.limit

/-- Within the largest limit the fault of a call is the failure of its source. -/
theorem fault?_eq_failure? {call : Call α} (hlimit : call.limit ≤ maxLimit) :
    call.fault? = call.failure? := by
  have htake : call.fetched.take call.limit = call.fetched.elements call.limit := by
    unfold Fetched.take
    split
    · rename_i fault hraised
      rw [hraised]
      rfl
    · rw [if_neg (Nat.not_lt.2 hlimit)]
  rw [fault?, htake]
  cases hfailure : call.failure? with
  | some fault => rw [Fetched.elements_of_failure?_eq_some hfailure]
  | none =>
      have hfails : ¬ call.fetched.Fails call.limit := by
        rw [Fetched.fails_iff, ← failure?, hfailure]
        exact Bool.false_ne_true
      rw [Fetched.elements_of_not_fails hfails]

theorem fault?_of_maxLimit_lt {call : Call α} (hlimit : maxLimit < call.limit) :
    call.fault?.isSome := by
  have htake : ∃ fault, call.fetched.take call.limit = .error fault := by
    unfold Fetched.take
    split
    · exact ⟨_, rfl⟩
    · exact ⟨_, if_pos hlimit⟩
  obtain ⟨fault, hfault⟩ := htake
  rw [fault?, hfault]
  rfl

/-- The call with the empty list in the place of a source that fails. -/
def settled (call : Call α) : Call α :=
  { call with fetched := if call.failure?.isSome then .ready [] else call.fetched }

theorem settled_of_failure?_eq_none {call : Call α} (h : call.failure? = none) :
    call.settled = call := by
  rw [settled, h]
  rfl

theorem failure?_settled (call : Call α) : call.settled.failure? = none := by
  cases h : call.failure? with
  | none => rw [settled_of_failure?_eq_none h, h]
  | some fault => rw [settled, h]; rfl

/-- A source that fails contributes as little as an empty one. -/
theorem contribution_settled (call : Call α) :
    call.settled.contribution = call.contribution := by
  cases h : call.failure? with
  | none => rw [settled_of_failure?_eq_none h]
  | some fault =>
      have hfails : call.fetched.Fails call.limit := by
        rw [Fetched.fails_iff, ← failure?, h]
        rfl
      have hempty : call.settled.fetched = .ready [] := by
        rw [settled, h]
        rfl
      rw [contribution_of_fails hfails, contribution_of_ready_nil hempty]

end Call

namespace Aggregation

variable {α : Type}

theorem contributions_map_settled (calls : List (Call α)) :
    contributions (calls.map Call.settled) = contributions calls := by
  rw [contributions, List.flatMap_map]
  exact List.flatMap_congr fun call _ => call.contribution_settled

/-! ## Two aggregations in step -/

section Step

variable {fetch other : String → Fetched α}

/-- While the other pass finds each source settled, its calls are the settled calls of
this one: they leave the same room. -/
theorem pass_of_settled (cap target : Int) {collected : Nat} {sources : List String}
    (h : ∀ call ∈ pass fetch cap target collected sources,
      other call.source = call.settled.fetched) :
    pass other cap target collected sources =
      (pass fetch cap target collected sources).map Call.settled := by
  induction sources generalizing collected with
  | nil => rfl
  | cons source rest ih =>
      by_cases hreached : target ≤ collected
      · rw [pass_of_reached other cap target hreached, pass_of_reached fetch cap target hreached]
        rfl
      · rw [pass_cons fetch cap target hreached, List.forall_mem_cons] at h
        obtain ⟨hcall, hrest⟩ := h
        have hnext : nextCall other cap target collected source =
            (nextCall fetch cap target collected source).settled :=
          congrArg (Call.mk source (limit cap target collected)) hcall
        rw [pass_cons other cap target hreached, pass_cons fetch cap target hreached,
          List.map_cons, hnext, Call.contribution_settled, ih hrest]

variable {policy : Policy} {sources : List String}
  (h : ∀ call ∈ (run policy fetch sources).calls, other call.source = call.settled.fetched)

include h

theorem primary_run_of_settled :
    (run policy other sources).primary =
      (run policy fetch sources).primary.map Call.settled := by
  have hprimary : ∀ call ∈ (run policy fetch sources).primary,
      other call.source = call.settled.fetched := fun call hcall =>
    h call (List.mem_append_left _ hcall)
  rw [primary_run] at hprimary ⊢
  rw [primary_run, pass_of_settled _ _ hprimary]

theorem collected_of_settled :
    collected policy other sources = collected policy fetch sources := by
  rw [collected, primary_run_of_settled h, contributions_map_settled, collected]

theorem fallbackCalls_run_of_settled :
    (run policy other sources).fallbackCalls =
      (run policy fetch sources).fallbackCalls.map Call.settled := by
  have hfallback : ∀ call ∈ (run policy fetch sources).fallbackCalls,
      other call.source = call.settled.fetched := fun call hcall =>
    h call (List.mem_append_right _ hcall)
  rw [fallbackCalls_run, collected_of_settled h]
  rw [fallbackCalls_run] at hfallback ⊢
  split
  · rfl
  · rename_i hfloor
    rw [if_neg hfloor] at hfallback
    exact pass_of_settled _ _ hfallback

theorem calls_run_of_settled :
    (run policy other sources).calls = (run policy fetch sources).calls.map Call.settled := by
  rw [calls, primary_run_of_settled h, fallbackCalls_run_of_settled h, calls, List.map_append]

end Step

/-- Fetching with the empty list for every source whose call failed. -/
def emptied (a : Aggregation α) (fetch : String → Fetched α) (source : String) : Fetched α :=
  if ∃ call ∈ a.calls, call.source = source ∧ call.failure?.isSome then .ready []
  else fetch source

/-- When no source is called twice, every call finds its source settled. -/
theorem emptied_of_mem {a : Aggregation α} {fetch : String → Fetched α}
    (hnodup : (a.calls.map Call.source).Nodup) {call : Call α} (hcall : call ∈ a.calls)
    (hfetched : call.fetched = fetch call.source) :
    a.emptied fetch call.source = call.settled.fetched := by
  have hfailed : (∃ other ∈ a.calls, other.source = call.source ∧ other.failure?.isSome) ↔
      call.failure?.isSome := by
    constructor
    · rintro ⟨other, hother, hsource, hfailure⟩
      rwa [← List.inj_on_of_nodup_map hnodup hother hcall hsource]
    · intro hfailure
      exact ⟨call, hcall, rfl, hfailure⟩
  rw [emptied, Call.settled]
  simp only [hfailed, hfetched]

/-! ## The log -/

/-- The log of an aggregation of sources that log nothing themselves. -/
def log (policy : Policy) (a : Aggregation α) : List LogEntry :=
  Run.logs (⟨.ok (), a.events policy fun _ => []⟩ : Run Unit)

/-- The warnings of the calls that came to a fault, of a kind. -/
def warnings (fault? : Call α → Option Fault) (calls : List (Call α)) : List LogEntry :=
  calls.filterMap fun call => (fault? call).map (.sourceSkipped call.source)

/-- The notice that a primary pass fell short, when there are sources left. -/
def notice (policy : Policy) (sources : List String) (a : Aggregation α) : List LogEntry :=
  let collected := (contributions a.primary).length
  let remaining := sources.drop (primaryCount policy sources)
  if collected < policy.fallbackFloor ∧ remaining ≠ [] then
    [.primaryPassShort collected policy.fallbackFloor remaining.length]
  else []

theorem logs_passEvents (outcome : Except Fault Unit) (calls : List (Call α)) :
    Run.logs ⟨outcome, passEvents (fun _ => []) calls⟩ = warnings Call.fault? calls := by
  induction calls with
  | nil => rfl
  | cons call rest ih =>
      rw [passEvents, List.flatMap_cons, warnings, List.filterMap_cons,
        Run.logs_append outcome outcome]
      change _ ++ Run.logs ⟨outcome, passEvents (fun _ => []) rest⟩ = _
      rw [ih]
      cases call.fault? <;> rfl

theorem fallback_run (policy : Policy) (fetch : String → Fetched α) (sources : List String) :
    (run policy fetch sources).fallback =
      if policy.fallbackFloor ≤ collected policy fetch sources ∨
          sources.drop (primaryCount policy sources) = [] then none
      else some ((sources.drop (primaryCount policy sources)).length,
        (run policy fetch sources).fallbackCalls) := by
  rw [collected, primary_run]
  simp only [run]
  split <;> rfl

theorem fallbackCalls_of_fallback_eq_none {a : Aggregation α} (h : a.fallback = none) :
    a.fallbackCalls = [] := by
  rw [fallbackCalls, h]

/-- The faults of the primary pass are warned of before the notice, and those of the
fallback pass after it. -/
theorem log_run (policy : Policy) (fetch : String → Fetched α) (sources : List String) :
    (run policy fetch sources).log policy =
      warnings Call.fault? (run policy fetch sources).primary ++
        notice policy sources (run policy fetch sources) ++
        warnings Call.fault? (run policy fetch sources).fallbackCalls := by
  have hfallback := fallback_run policy fetch sources
  rw [log, events, Run.logs_append (.ok ()) (.ok ()), logs_passEvents, List.append_assoc]
  congr 1
  split at hfallback
  · rename_i hmet
    have hnone : notice policy sources (run policy fetch sources) = [] := by
      rw [notice]
      exact if_neg fun hshort => hmet.elim (Int.not_le.2 hshort.1) hshort.2
    rw [hnone, fallbackCalls_of_fallback_eq_none hfallback, hfallback]
    rfl
  · rename_i hmet
    obtain ⟨hfloor, hleft⟩ := not_or.1 hmet
    have hsome : notice policy sources (run policy fetch sources) =
        [.primaryPassShort (collected policy fetch sources) policy.fallbackFloor
          (sources.drop (primaryCount policy sources)).length] := by
      rw [notice]
      exact if_pos ⟨Int.not_le.1 hfloor, hleft⟩
    rw [hsome, hfallback, List.singleton_append, ← logs_passEvents (.ok ())]
    rfl

theorem warning_of_mem_warnings {fault? : Call α → Option Fault} {calls : List (Call α)}
    {entry : LogEntry} (h : entry ∈ warnings fault? calls) :
    ∃ call ∈ calls, ∃ fault, fault? call = some fault ∧
      entry = .sourceSkipped call.source fault := by
  obtain ⟨call, hcall, hentry⟩ := List.mem_filterMap.1 h
  obtain ⟨fault, hfault, rfl⟩ := Option.map_eq_some_iff.1 hentry
  exact ⟨call, hcall, fault, hfault, rfl⟩

theorem info_of_mem_notice {policy : Policy} {sources : List String} {a : Aggregation α}
    {entry : LogEntry} (h : entry ∈ notice policy sources a) : entry.level = .info := by
  rw [notice] at h
  split at h
  · rw [List.mem_singleton.1 h]
    rfl
  · cases h

theorem warnings_map_settled (calls : List (Call α)) :
    warnings Call.failure? (calls.map Call.settled) = [] := by
  rw [warnings, List.filterMap_eq_nil_iff]
  intro call hcall
  obtain ⟨other, -, rfl⟩ := List.mem_map.1 hcall
  rw [Call.failure?_settled]
  rfl

/-- The aggregation once more, with the empty list for every source that failed. -/
def rerun (policy : Policy) (fetch : String → Fetched α) (sources : List String) :
    Aggregation α :=
  run policy ((run policy fetch sources).emptied fetch) sources

/-- A failing source counts as an empty one with a warning. -/
structure Absorbed (policy : Policy) (fetch : String → Fetched α) (sources : List String) :
    Prop where
  items : (rerun policy fetch sources).items = (run policy fetch sources).items
  /-- The calls are of the same sources, and for as many elements. -/
  calls : (rerun policy fetch sources).calls.map (fun call => (call.source, call.limit)) =
    (run policy fetch sources).calls.map fun call => (call.source, call.limit)
  /-- One warning for each failed source, in the order of the calls, and between those
  of the two passes the notice that announces the second one. -/
  log : (run policy fetch sources).log policy =
    warnings Call.failure? (run policy fetch sources).primary ++
      notice policy sources (run policy fetch sources) ++
      warnings Call.failure? (run policy fetch sources).fallbackCalls
  quiet : (rerun policy fetch sources).log policy =
    ((run policy fetch sources).log policy).filter fun entry => entry.level ≠ .warning

section Askable

variable {policy : Policy} (h : policy.Askable) (fetch : String → Fetched α)

include h

/-- When no limit is too large there are no faults but the failures of sources. -/
theorem warnings_run_of_askable (sources : List String) :
    warnings Call.fault? (run policy fetch sources).primary =
        warnings Call.failure? (run policy fetch sources).primary ∧
      warnings Call.fault? (run policy fetch sources).fallbackCalls =
        warnings Call.failure? (run policy fetch sources).fallbackCalls := by
  constructor
  · apply List.filterMap_congr
    intro call hcall
    rw [Call.fault?_eq_failure? (limit_le_of_mem_primary fetch sources h hcall)]
  · apply List.filterMap_congr
    intro call hcall
    rw [Call.fault?_eq_failure? (limit_le_of_mem_fallbackCalls fetch sources h hcall)]

theorem log_run_of_askable (sources : List String) :
    (run policy fetch sources).log policy =
      warnings Call.failure? (run policy fetch sources).primary ++
        notice policy sources (run policy fetch sources) ++
        warnings Call.failure? (run policy fetch sources).fallbackCalls := by
  obtain ⟨hprimary, hfallback⟩ := warnings_run_of_askable h fetch sources
  rw [log_run, hprimary, hfallback]

theorem absorbed_of_askable {sources : List String} (hnodup : sources.Nodup) :
    Absorbed policy fetch sources := by
  have hinOrder := (prefix_sources_calls_run policy fetch sources).sublist
  have hsettled : ∀ call ∈ (run policy fetch sources).calls,
      (run policy fetch sources).emptied fetch call.source = call.settled.fetched := by
    intro call hcall
    exact emptied_of_mem (hnodup.sublist hinOrder) hcall (fetched_of_mem_calls_run hcall)
  have hcalls := calls_run_of_settled hsettled
  have hlog := log_run_of_askable h fetch sources
  refine ⟨?_, ?_, hlog, ?_⟩
  · rw [rerun, Aggregation.items, hcalls, contributions_map_settled, Aggregation.items]
  · rw [rerun, hcalls, List.map_map]
    rfl
  · have hnotice : notice policy sources (rerun policy fetch sources) =
        notice policy sources (run policy fetch sources) := by
      rw [rerun, notice, primary_run_of_settled hsettled, contributions_map_settled, notice]
    have hquiet (calls : List (Call α)) :
        (warnings Call.failure? calls).filter (fun entry => entry.level ≠ .warning) = [] := by
      rw [List.filter_eq_nil_iff]
      intro entry hentry
      obtain ⟨call, -, fault, -, rfl⟩ := warning_of_mem_warnings hentry
      simp [LogEntry.level]
    have hkept : (notice policy sources (run policy fetch sources)).filter
        (fun entry => entry.level ≠ .warning) =
          notice policy sources (run policy fetch sources) := by
      rw [List.filter_eq_self]
      intro entry hentry
      rw [info_of_mem_notice hentry]
      rfl
    rw [hlog, List.filter_append, List.filter_append, hquiet, hquiet, hkept, rerun,
      log_run_of_askable h, primary_run_of_settled hsettled,
      fallbackCalls_run_of_settled hsettled, warnings_map_settled, warnings_map_settled,
      ← rerun, hnotice]

end Askable

/-! ## Policies that ask for too much -/

/-- A fault is warned of, so that some source must have failed. -/
theorem Absorbed.exists_failure {policy : Policy} {fetch : String → Fetched α}
    {sources : List String} (h : Absorbed policy fetch sources) {call : Call α}
    (hcall : call ∈ (run policy fetch sources).calls) (hfault : call.fault?.isSome) :
    ∃ other ∈ (run policy fetch sources).calls, other.failure?.isSome := by
  obtain ⟨fault, hfault⟩ := Option.isSome_iff_exists.1 hfault
  have hwarned (calls : List (Call α)) (hmem : call ∈ calls) :
      .sourceSkipped call.source fault ∈ warnings Call.fault? calls :=
    List.mem_filterMap.2 ⟨call, hmem, by rw [hfault]; rfl⟩
  have hlogged : .sourceSkipped call.source fault ∈ (run policy fetch sources).log policy := by
    rw [log_run, List.mem_append, List.mem_append]
    rcases List.mem_append.1 hcall with hprimary | hfallback
    · exact .inl (.inl (hwarned _ hprimary))
    · exact .inr (hwarned _ hfallback)
  rw [h.log, List.mem_append, List.mem_append] at hlogged
  rcases hlogged with (hprimary | hnotice) | hfallback
  · obtain ⟨other, hother, failure, hfailure, -⟩ := warning_of_mem_warnings hprimary
    exact ⟨other, List.mem_append_left _ hother, by rw [hfailure]; rfl⟩
  · cases info_of_mem_notice hnotice
  · obtain ⟨other, hother, failure, hfailure, -⟩ := warning_of_mem_warnings hfallback
    exact ⟨other, List.mem_append_right _ hother, by rw [hfailure]; rfl⟩

/-- So many sources, no two of them the same. -/
def distinct (n : Nat) : List String :=
  (List.range n).map fun i => String.ofList (List.replicate i 'a')

theorem nodup_distinct (n : Nat) : (distinct n).Nodup := by
  apply List.nodup_range.map
  intro i j hij
  simpa using congrArg String.length hij

theorem length_distinct (n : Nat) : (distinct n).length = n := by
  simp [distinct]

/-- Fetching sources that are all empty. -/
def fetchNothing (_ : String) : Fetched α := .ready []

theorem collected_fetchNothing (policy : Policy) (sources : List String) :
    collected policy (fetchNothing : String → Fetched α) sources = 0 := by
  rw [collected, List.length_eq_zero_iff, contributions, List.flatMap_eq_nil_iff]
  intro call hcall
  exact Call.contribution_of_ready_nil (fetched_of_mem_calls_run (List.mem_append_left _ hcall))

theorem limit_le_of_absorbed {policy : Policy} {sources : List String}
    (h : Absorbed policy (fetchNothing : String → Fetched α) sources) {call : Call α}
    (hcall : call ∈ (run policy fetchNothing sources).calls) : call.limit ≤ maxLimit := by
  apply Nat.le_of_not_lt
  intro hlimit
  obtain ⟨other, hother, hfailure⟩ :=
    h.exists_failure hcall (Call.fault?_of_maxLimit_lt hlimit)
  rw [Call.failure?, fetched_of_mem_calls_run hother] at hfailure
  cases hfailure

/-- Unless the target is reached a pass calls its first source for all that its cap and
the target allow. -/
theorem exists_mem_pass (fetch : String → Fetched α) (cap target : Int)
    (htarget : 0 < target) {sources : List String} (hsources : sources ≠ []) :
    ∃ call ∈ pass fetch cap target 0 sources, call.limit = (min cap target).toNat := by
  obtain ⟨source, rest, rfl⟩ := List.exists_cons_of_ne_nil hsources
  refine ⟨nextCall fetch cap target 0 source, ?_, ?_⟩
  · rw [pass_cons fetch cap target (by omega)]
    exact List.mem_cons_self
  · rw [nextCall, limit]
    simp

theorem askable_of_absorbed {policy : Policy}
    (h : ∀ sources : List String, sources.Nodup →
      Absorbed policy (fetchNothing : String → Fetched α) sources) : policy.Askable := by
  let sources := distinct (policy.primarySources.natAbs + 1)
  have hlimit {call : Call α} (hcall : call ∈ (run policy fetchNothing sources).calls) :
      call.limit ≤ maxLimit :=
    limit_le_of_absorbed (h sources (nodup_distinct _)) hcall
  have hlength : sources.length = policy.primarySources.natAbs + 1 := length_distinct _
  constructor
  · apply Classical.or_iff_not_imp_left.2
    intro hsome
    apply Decidable.byContradiction
    intro hlarge
    have hsources : sources.take (primaryCount policy sources) ≠ [] := by
      rw [← List.length_pos_iff, List.length_take, hlength, primaryCount, hlength]
      split <;> omega
    obtain ⟨call, hcall, heq⟩ := exists_mem_pass (α := α) fetchNothing policy.primaryCap
      policy.targetTotal (by omega) hsources
    rw [← primary_run] at hcall
    have hle := hlimit (List.mem_append_left _ hcall)
    omega
  · apply Classical.or_iff_not_imp_left.2
    intro hfloor
    apply Decidable.byContradiction
    intro hlarge
    have hsources : sources.drop (primaryCount policy sources) ≠ [] := by
      rw [← List.length_pos_iff, List.length_drop, hlength, primaryCount, hlength]
      split <;> omega
    obtain ⟨call, hcall, heq⟩ := exists_mem_pass (α := α) fetchNothing policy.fallbackCap
      policy.targetTotal (by omega) hsources
    have hfallback : call ∈ (run policy fetchNothing sources).fallbackCalls := by
      rw [fallbackCalls_run, collected_fetchNothing, if_neg (by omega)]
      exact hcall
    have hle := hlimit (List.mem_append_right _ hfallback)
    omega

/-- In aggregations over sources without repetition a failing source is exactly an
empty one with a warning, whatever the sources are and give, when the policy never asks
for too much, and only then. -/
theorem run_absorbed_iff (policy : Policy) :
    (∀ (fetch : String → Fetched α) (sources : List String), sources.Nodup →
        Absorbed policy fetch sources) ↔
      policy.Askable := by
  constructor
  · intro habsorbed
    exact askable_of_absorbed fun sources hnodup => habsorbed fetchNothing sources hnodup
  · intro h fetch sources hnodup
    exact absorbed_of_askable h fetch hnodup

/-- A policy with one primary source. -/
def onePrimary : Policy := { primarySources := 1 }

/-- The fallback pass loses the sequence with a fault after two elements, of which it
asks for three. -/
theorem run_midwayFaults_absorbed :
    onePrimary.Askable ∧ ["b", "a", "c"].Nodup ∧
      Absorbed onePrimary midwayFaults ["b", "a", "c"] ∧
      (run onePrimary midwayFaults ["b", "a", "c"]).log onePrimary =
        [.primaryPassShort 4 15 2, .sourceSkipped "a" (.defect .emptyList)] := by
  have hask : onePrimary.Askable := ⟨.inr (by decide), .inr (by decide)⟩
  have hnodup : ["b", "a", "c"].Nodup := by decide
  exact ⟨hask, hnodup, (run_absorbed_iff onePrimary).2 hask midwayFaults _ hnodup, by rfl⟩

/-- An empty source, which did not fail, is warned of. -/
theorem run_enormous_not_absorbed :
    (run enormous (fetchNothing : String → Fetched Nat) ["a"]).log enormous =
        [.sourceSkipped "a" (.defect .limitTooLarge)] ∧
      ¬ Absorbed enormous (fetchNothing : String → Fetched Nat) ["a"] := by
  refine ⟨by rfl, fun habsorbed => ?_⟩
  have hlogged := habsorbed.log
  cases hlogged

end Aggregation

end KidsListing
