import KidsListing.Proofs.Feed.Aggregation

/-!
# Call discipline of an aggregation

An aggregation fetches its sources in their order, each place once, and makes a
call only while the target is not reached.  It leaves a source alone for two
reasons only: the target is reached, or the primary sources are all called and
their items meet the floor.  This holds of every policy, the target being below
the floor or not.
-/

namespace KidsListing.Aggregation

variable {α : Type}

/-! ## One pass -/

section Pass

variable (fetch : String → Fetched α) (cap target : Int)

/-- What a call may take depends on the calls before it through the number of
their items alone. -/
theorem eq_nextCall_of_getElem?_pass {collected : Nat} {sources : List String} {i : Nat}
    {call : Call α} (h : (pass fetch cap target collected sources)[i]? = some call) :
    ∃ before, before = collected +
        (contributions ((pass fetch cap target collected sources).take i)).length ∧
      before < target ∧ call = nextCall fetch cap target before call.source := by
  induction sources generalizing collected i with
  | nil => simp [pass] at h
  | cons source rest ih =>
      by_cases hreached : target ≤ collected
      · simp [pass_of_reached fetch cap target hreached] at h
      · rw [pass_cons fetch cap target hreached] at h ⊢
        cases i with
        | zero =>
            obtain rfl := Option.some.inj h
            exact ⟨collected, rfl, Int.not_le.1 hreached, rfl⟩
        | succ i =>
            obtain ⟨before, hbefore, hroom, hcall⟩ := ih h
            refine ⟨before, ?_, hroom, hcall⟩
            rw [hbefore, List.take_succ_cons, contributions_cons, List.length_append,
              Nat.add_assoc]

theorem lt_target_of_getElem?_pass {collected : Nat} {sources : List String} {i : Nat}
    {call : Call α} (h : (pass fetch cap target collected sources)[i]? = some call) :
    collected + (contributions ((pass fetch cap target collected sources).take i)).length <
      target := by
  obtain ⟨before, hbefore, hroom, -⟩ := eq_nextCall_of_getElem?_pass fetch cap target h
  rw [hbefore] at hroom
  exact hroom

end Pass

/-! ## Both passes -/

section Run

variable (policy : Policy) (fetch : String → Fetched α) (sources : List String)

theorem prefix_sources_primary_run :
    (run policy fetch sources).primary.map Call.source <+:
      sources.take (primaryCount policy sources) := by
  rw [primary_run]
  exact prefix_map_source_pass fetch _ _ _ _

/-- As soon as the fallback pass calls a source, no primary source is left. -/
theorem sources_primary_run_of_fallback
    (h : (run policy fetch sources).fallbackCalls ≠ []) :
    (run policy fetch sources).primary.map Call.source =
      sources.take (primaryCount policy sources) := by
  have hlength := (fallbackCalls_run_of_ne_nil policy fetch sources h).1
  apply (prefix_sources_primary_run policy fetch sources).eq_of_length
  rw [List.length_map, hlength, List.length_take,
    Nat.min_eq_left (primaryCount_le policy sources)]

/-- The two passes go through one prefix of the sources. -/
theorem prefix_sources_calls_run :
    (run policy fetch sources).calls.map Call.source <+: sources := by
  have hprimary := prefix_sources_primary_run policy fetch sources
  rw [calls, List.map_append]
  by_cases hfallback : (run policy fetch sources).fallbackCalls = []
  · rw [hfallback, List.map_nil, List.append_nil]
    exact hprimary.trans (List.take_prefix _ _)
  · have hrest : (run policy fetch sources).fallbackCalls.map Call.source <+:
        sources.drop (primaryCount policy sources) := by
      rw [(fallbackCalls_run_of_ne_nil policy fetch sources hfallback).2]
      exact prefix_map_source_pass fetch _ _ _ _
    rw [sources_primary_run_of_fallback policy fetch sources hfallback]
    have hwhole := (List.prefix_append_right_inj
      (sources.take (primaryCount policy sources))).2 hrest
    rwa [List.take_append_drop] at hwhole

variable {policy fetch sources}

/-- A call of either pass is made below the target. -/
theorem lt_target_of_getElem?_calls_run {i : Nat} {call : Call α}
    (h : (run policy fetch sources).calls[i]? = some call) :
    (contributions ((run policy fetch sources).calls.take i)).length <
      policy.targetTotal := by
  rw [calls] at h ⊢
  by_cases hi : i < (run policy fetch sources).primary.length
  · rw [List.getElem?_append_left hi] at h
    rw [List.take_append_of_le_length (Nat.le_of_lt hi)]
    rw [primary_run] at h ⊢
    have hroom := lt_target_of_getElem?_pass fetch _ _ h
    omega
  · have hle : (run policy fetch sources).primary.length ≤ i := Nat.le_of_not_lt hi
    rw [List.getElem?_append_right hle] at h
    have hfallback : (run policy fetch sources).fallbackCalls ≠ [] := by
      intro hnone
      rw [hnone] at h
      cases h
    obtain ⟨-, hcalls⟩ := fallbackCalls_run_of_ne_nil policy fetch sources hfallback
    rw [List.take_append, List.take_of_length_le hle, contributions_append,
      List.length_append]
    rw [hcalls] at h ⊢
    exact lt_target_of_getElem?_pass fetch _ _ h

variable (policy fetch sources)

/-- Why a source may be left uncalled. -/
theorem reached_of_length_calls_run_lt
    (h : (run policy fetch sources).calls.length < sources.length) :
    policy.targetTotal ≤ (run policy fetch sources).items.length ∨
      (run policy fetch sources).primary.map Call.source =
          sources.take (primaryCount policy sources) ∧
        policy.fallbackFloor ≤ (contributions (run policy fetch sources).primary).length := by
  have hcount := primaryCount_le policy sources
  by_cases htarget : policy.targetTotal ≤ collected policy fetch sources
  · left
    have hitems : collected policy fetch sources ≤
        (run policy fetch sources).items.length := by
      rw [items_run, List.length_append]
      exact Nat.le_add_right _ _
    omega
  · have hprimary := length_primary_run_of_not_reached policy fetch sources htarget
    by_cases hfloor : policy.fallbackFloor ≤ collected policy fetch sources
    · right
      refine ⟨?_, hfloor⟩
      apply (prefix_sources_primary_run policy fetch sources).eq_of_length
      rw [List.length_map, hprimary, List.length_take, Nat.min_eq_left hcount]
    · -- The fallback pass is made, and it stops short of its sources.
      left
      rw [calls, List.length_append, hprimary, fallbackCalls_run, if_neg hfloor] at h
      rw [items_run, List.length_append, fallbackCalls_run, if_neg hfloor]
      rcases length_pass_or_reached fetch policy.fallbackCap policy.targetTotal
        (collected policy fetch sources) (sources.drop (primaryCount policy sources))
        with hlength | hreached
      · rw [hlength, List.length_drop] at h
        omega
      · exact hreached

end Run

/-- How an aggregation goes about its calls. -/
structure Disciplined (policy : Policy) (fetch : String → Fetched α) (sources : List String)
    (a : Aggregation α) : Prop where
  /-- The calls fetch a prefix of the sources, so each place at most once and in order. -/
  inOrder : a.calls.map Call.source <+: sources
  fetched : ∀ call ∈ a.calls, call.fetched = fetch call.source
  /-- The primary pass keeps to the primary sources, and the fallback pass goes on
  where they end. -/
  primary : a.primary.map Call.source <+: sources.take (primaryCount policy sources)
  continued : a.fallbackCalls = [] ∨
    a.primary.map Call.source = sources.take (primaryCount policy sources) ∧
      a.fallbackCalls.map Call.source <+: sources.drop (primaryCount policy sources)
  /-- Every call finds fewer items than the target. -/
  belowTarget : ∀ before call after, a.calls = before ++ call :: after →
    (contributions before).length < policy.targetTotal
  uncalled : a.calls.map Call.source = sources ∨
    policy.targetTotal ≤ a.items.length ∨
      a.primary.map Call.source = sources.take (primaryCount policy sources) ∧
        policy.fallbackFloor ≤ (contributions a.primary).length
  /-- A result short of both the target and the floor has tried every source. -/
  exhausted : a.items.length < policy.targetTotal → a.items.length < policy.fallbackFloor →
    a.calls.map Call.source = sources

/-- Every aggregation keeps to the discipline, whatever its policy is and whatever
its sources give. -/
theorem run_disciplined (policy : Policy) (fetch : String → Fetched α)
    (sources : List String) :
    Disciplined policy fetch sources (run policy fetch sources) := by
  have hfront := prefix_sources_calls_run policy fetch sources
  have huncalled : (run policy fetch sources).calls.map Call.source = sources ∨
      policy.targetTotal ≤ (run policy fetch sources).items.length ∨
        (run policy fetch sources).primary.map Call.source =
            sources.take (primaryCount policy sources) ∧
          policy.fallbackFloor ≤
            (contributions (run policy fetch sources).primary).length := by
    by_cases hall : (run policy fetch sources).calls.length = sources.length
    · left
      apply hfront.eq_of_length
      rw [List.length_map, hall]
    · right
      have hle := hfront.length_le
      rw [List.length_map] at hle
      exact reached_of_length_calls_run_lt policy fetch sources (Nat.lt_of_le_of_ne hle hall)
  refine ⟨hfront, ?_, prefix_sources_primary_run policy fetch sources, ?_, ?_, huncalled, ?_⟩
  · intro call hcall
    obtain ⟨i, hi⟩ := List.mem_iff_getElem?.1 hcall
    exact (getElem?_calls_run hi).2.1
  · by_cases hfallback : (run policy fetch sources).fallbackCalls = []
    · exact .inl hfallback
    · right
      refine ⟨sources_primary_run_of_fallback policy fetch sources hfallback, ?_⟩
      rw [(fallbackCalls_run_of_ne_nil policy fetch sources hfallback).2]
      exact prefix_map_source_pass fetch _ _ _ _
  · intro before call after hsplit
    have hcall : (run policy fetch sources).calls[before.length]? = some call := by
      rw [hsplit, List.getElem?_append_right (Nat.le_refl _), Nat.sub_self]
      rfl
    have hroom := lt_target_of_getElem?_calls_run hcall
    rwa [hsplit, List.take_left] at hroom
  · intro htarget hfloor
    rcases huncalled with hall | hreached | ⟨-, hmet⟩
    · exact hall
    · omega
    · have hitems : (contributions (run policy fetch sources).primary).length ≤
          (run policy fetch sources).items.length := by
        rw [items_run, List.length_append]
        exact Nat.le_add_right _ _
      omega

end KidsListing.Aggregation
