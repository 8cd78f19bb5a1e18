import KidsListing.Feed.Aggregation

/-!
# Calls of an aggregation

A pass calls a prefix of its sources, each within the cap and the room that is
left, and it leaves a source uncalled only when the target is reached.  The two
passes of an aggregation thus go through one prefix of all sources and never
collect more than the target.
-/

namespace KidsListing.Aggregation

variable {α : Type}

@[simp]
theorem contributions_nil : contributions ([] : List (Call α)) = [] := rfl

@[simp]
theorem contributions_cons (call : Call α) (calls : List (Call α)) :
    contributions (call :: calls) = call.contribution ++ contributions calls :=
  List.flatMap_cons

@[simp]
theorem contributions_append (calls others : List (Call α)) :
    contributions (calls ++ others) = contributions calls ++ contributions others :=
  List.flatMap_append

/-- The call of the next source of a pass. -/
def nextCall (fetch : String → Fetched α) (cap target : Int) (collected : Nat)
    (source : String) : Call α :=
  ⟨source, limit cap target collected, fetch source⟩

/-! ## One pass -/

section Pass

variable (fetch : String → Fetched α) (cap target : Int)

theorem pass_of_reached {collected : Nat} (h : target ≤ collected) (sources : List String) :
    pass fetch cap target collected sources = [] := by
  cases sources with
  | nil => rfl
  | cons source rest => rw [pass, if_pos h]

theorem pass_cons {collected : Nat} (h : ¬ target ≤ collected) (source : String)
    (rest : List String) :
    pass fetch cap target collected (source :: rest) =
      nextCall fetch cap target collected source ::
        pass fetch cap target
          (collected + (nextCall fetch cap target collected source).contribution.length)
          rest := by
  rw [pass, if_neg h]
  rfl

theorem length_contribution_nextCall_le (collected : Nat) (source : String) :
    (nextCall fetch cap target collected source).contribution.length ≤
      (min cap (target - collected)).toNat :=
  Call.length_contribution_le _

/-- A pass never collects beyond the target. -/
theorem length_contributions_pass_le (collected : Nat) (sources : List String) :
    collected + (contributions (pass fetch cap target collected sources)).length ≤
      max collected target.toNat := by
  induction sources generalizing collected with
  | nil => exact Nat.le_max_left _ _
  | cons source rest ih =>
      by_cases hreached : target ≤ collected
      · rw [pass_of_reached fetch cap target hreached]
        exact Nat.le_max_left _ _
      · have hcall := length_contribution_nextCall_le fetch cap target collected source
        have hrest := ih
          (collected + (nextCall fetch cap target collected source).contribution.length)
        rw [pass_cons fetch cap target hreached, contributions_cons, List.length_append]
        omega

/-- The calls of a pass are those of its first sources, in order and within the
cap. -/
theorem getElem?_pass {collected : Nat} {sources : List String} {i : Nat} {call : Call α}
    (h : (pass fetch cap target collected sources)[i]? = some call) :
    sources[i]? = some call.source ∧ call.fetched = fetch call.source ∧
      call.limit ≤ cap.toNat := by
  induction sources generalizing collected i with
  | nil => simp [pass] at h
  | cons source rest ih =>
      by_cases hreached : target ≤ collected
      · simp [pass_of_reached fetch cap target hreached] at h
      · rw [pass_cons fetch cap target hreached] at h
        cases i with
        | zero =>
            obtain rfl := Option.some.inj h
            refine ⟨rfl, rfl, ?_⟩
            simp only [nextCall, limit]
            omega
        | succ i => exact ih h

theorem prefix_map_source_pass (collected : Nat) (sources : List String) :
    (pass fetch cap target collected sources).map Call.source <+: sources := by
  induction sources generalizing collected with
  | nil => exact List.prefix_refl _
  | cons source rest ih =>
      by_cases hreached : target ≤ collected
      · rw [pass_of_reached fetch cap target hreached]
        exact List.nil_prefix
      · rw [pass_cons fetch cap target hreached, List.map_cons]
        exact (List.prefix_cons_inj _).2 (ih _)

/-- A pass that does not call all its sources has reached the target. -/
theorem length_pass_or_reached (collected : Nat) (sources : List String) :
    (pass fetch cap target collected sources).length = sources.length ∨
      target ≤ collected +
        (contributions (pass fetch cap target collected sources)).length := by
  induction sources generalizing collected with
  | nil => exact .inl rfl
  | cons source rest ih =>
      by_cases hreached : target ≤ collected
      · right
        omega
      · rw [pass_cons fetch cap target hreached, contributions_cons]
        rcases ih
          (collected + (nextCall fetch cap target collected source).contribution.length)
          with hlength | htarget
        · left
          simp [hlength]
        · right
          simp only [List.length_append]
          omega

end Pass

/-! ## Both passes -/

section Run

variable (policy : Policy) (fetch : String → Fetched α) (sources : List String)

theorem primary_run :
    (run policy fetch sources).primary =
      pass fetch policy.primaryCap policy.targetTotal 0
        (sources.take (primaryCount policy sources)) := by
  simp only [run]
  split <;> rfl

/-- The number of items that the primary pass collects. -/
def collected : Nat :=
  (contributions (run policy fetch sources).primary).length

theorem fallbackCalls_run :
    (run policy fetch sources).fallbackCalls =
      if policy.fallbackFloor ≤ collected policy fetch sources then []
      else pass fetch policy.fallbackCap policy.targetTotal (collected policy fetch sources)
        (sources.drop (primaryCount policy sources)) := by
  rw [collected, primary_run]
  simp only [run]
  by_cases hfloor : policy.fallbackFloor ≤
      (contributions (pass fetch policy.primaryCap policy.targetTotal 0
        (sources.take (primaryCount policy sources)))).length
  · simp [hfloor, fallbackCalls]
  · by_cases hnone : sources.drop (primaryCount policy sources) = []
    · simp [hnone, fallbackCalls, pass]
    · simp [hfloor, hnone, fallbackCalls]

theorem items_run :
    (run policy fetch sources).items =
      contributions (run policy fetch sources).primary ++
        contributions (run policy fetch sources).fallbackCalls :=
  contributions_append _ _

theorem collected_le : collected policy fetch sources ≤ policy.targetTotal.toNat := by
  have hpass := length_contributions_pass_le fetch policy.primaryCap policy.targetTotal 0
    (sources.take (primaryCount policy sources))
  rw [← primary_run] at hpass
  rw [collected]
  omega

/-- An aggregation never gives more than the target. -/
theorem length_items_run_le :
    (run policy fetch sources).items.length ≤ policy.targetTotal.toNat := by
  have hprimary := collected_le policy fetch sources
  have hfallback := length_contributions_pass_le fetch policy.fallbackCap policy.targetTotal
    (collected policy fetch sources) (sources.drop (primaryCount policy sources))
  rw [items_run, fallbackCalls_run, List.length_append]
  change collected policy fetch sources + _ ≤ _
  split
  · exact hprimary
  · omega

theorem primaryCount_of_nonneg {policy : Policy} (h : 0 ≤ policy.primarySources)
    (sources : List String) :
    primaryCount policy sources = min policy.primarySources.toNat sources.length := by
  rw [primaryCount, if_neg (Int.not_lt.2 h)]

theorem primaryCount_le : primaryCount policy sources ≤ sources.length := by
  unfold primaryCount
  split <;> omega

theorem length_primary_run_le :
    (run policy fetch sources).primary.length ≤ primaryCount policy sources := by
  rw [primary_run]
  have hprefix := (prefix_map_source_pass fetch policy.primaryCap policy.targetTotal 0
    (sources.take (primaryCount policy sources))).length_le
  simp only [List.length_map, List.length_take] at hprefix
  omega

/-- Below the target the primary pass has called all its sources. -/
theorem length_primary_run_of_not_reached
    (h : ¬ policy.targetTotal ≤ collected policy fetch sources) :
    (run policy fetch sources).primary.length = primaryCount policy sources := by
  rcases length_pass_or_reached fetch policy.primaryCap policy.targetTotal 0
    (sources.take (primaryCount policy sources)) with hlength | hreached
  · rw [primary_run, hlength, List.length_take]
    exact Nat.min_eq_left (primaryCount_le policy sources)
  · rw [← primary_run] at hreached
    simp only [collected] at h
    omega

/-- The fallback pass only calls sources once all those of the primary pass are
called. -/
theorem fallbackCalls_run_of_ne_nil (h : (run policy fetch sources).fallbackCalls ≠ []) :
    (run policy fetch sources).primary.length = primaryCount policy sources ∧
      (run policy fetch sources).fallbackCalls =
        pass fetch policy.fallbackCap policy.targetTotal (collected policy fetch sources)
          (sources.drop (primaryCount policy sources)) := by
  rw [fallbackCalls_run] at h ⊢
  split at h
  · exact absurd rfl h
  · rename_i hfloor
    rw [if_neg hfloor]
    have hroom : ¬ policy.targetTotal ≤ collected policy fetch sources := by
      intro hreached
      exact h (pass_of_reached fetch policy.fallbackCap policy.targetTotal hreached _)
    exact ⟨length_primary_run_of_not_reached policy fetch sources hroom, rfl⟩

variable {policy fetch sources}

/-- The calls of an aggregation are those of its first sources, in order; the
first ones are within the primary cap and all others within the fallback cap. -/
theorem getElem?_calls_run {i : Nat} {call : Call α}
    (h : (run policy fetch sources).calls[i]? = some call) :
    sources[i]? = some call.source ∧ call.fetched = fetch call.source ∧
      call.limit ≤ (if i < primaryCount policy sources then policy.primaryCap
        else policy.fallbackCap).toNat := by
  rw [calls] at h
  by_cases hi : i < (run policy fetch sources).primary.length
  · have hcount : i < primaryCount policy sources :=
      Nat.lt_of_lt_of_le hi (length_primary_run_le policy fetch sources)
    rw [List.getElem?_append_left hi, primary_run] at h
    obtain ⟨hsource, hfetched, hlimit⟩ := getElem?_pass fetch _ _ h
    rw [List.getElem?_take_of_lt hcount] at hsource
    rw [if_pos hcount]
    exact ⟨hsource, hfetched, hlimit⟩
  · rw [List.getElem?_append_right (Nat.le_of_not_lt hi)] at h
    have hfallback : (run policy fetch sources).fallbackCalls ≠ [] := by
      intro hnil
      rw [hnil] at h
      cases h
    obtain ⟨hlength, hcalls⟩ := fallbackCalls_run_of_ne_nil policy fetch sources hfallback
    rw [hlength] at hi
    rw [hcalls, hlength] at h
    obtain ⟨hsource, hfetched, hlimit⟩ := getElem?_pass fetch _ _ h
    rw [List.getElem?_drop, Nat.add_sub_cancel' (Nat.le_of_not_lt hi)] at hsource
    rw [if_neg hi]
    exact ⟨hsource, hfetched, hlimit⟩

theorem fetched_of_mem_calls_run {call : Call α}
    (h : call ∈ (run policy fetch sources).calls) : call.fetched = fetch call.source := by
  obtain ⟨i, hi⟩ := List.mem_iff_getElem?.1 h
  exact (getElem?_calls_run hi).2.1

end Run

end KidsListing.Aggregation
