import KidsListing.Proofs.Feed.EarlyStopping

/-!
# Sources added at the end

More sources at the end of a list may go on with the primary pass, and they may bring
about a fallback pass or go on with it.  None of this touches what was done before: an
aggregation over the longer list begins with the same calls, each with the same limit,
and so with the same items.  This holds whatever the sources give, also where they fail
only when many elements are asked for.
-/

namespace KidsListing.Aggregation

variable {α : Type}

theorem prefix_contributions {calls others : List (Call α)} (h : calls <+: others) :
    contributions calls <+: contributions others := by
  obtain ⟨rest, rfl⟩ := h
  rw [contributions_append]
  exact List.prefix_append _ _

/-! ## One pass -/

section Pass

variable (fetch : String → Fetched α) (cap target : Int)

/-- A pass over more sources goes on where the pass over the first ones ends. -/
theorem pass_append (collected : Nat) (sources more : List String) :
    pass fetch cap target collected (sources ++ more) =
      pass fetch cap target collected sources ++
        pass fetch cap target
          (collected + (contributions (pass fetch cap target collected sources)).length)
          more := by
  induction sources generalizing collected with
  | nil => rfl
  | cons source rest ih =>
      by_cases hreached : target ≤ collected
      · have hstill : target ≤ (collected +
            (contributions (pass fetch cap target collected (source :: rest))).length : Nat) := by
          omega
        rw [pass_of_reached fetch cap target hstill, List.append_nil,
          pass_of_reached fetch cap target hreached,
          pass_of_reached fetch cap target hreached]
      · rw [List.cons_append, pass_cons fetch cap target hreached,
          pass_cons fetch cap target hreached, ih, contributions_cons, List.length_append,
          Nat.add_assoc]
        rfl

theorem prefix_pass_append (collected : Nat) (sources more : List String) :
    pass fetch cap target collected sources <+:
      pass fetch cap target collected (sources ++ more) := by
  rw [pass_append]
  exact List.prefix_append _ _

end Pass

/-! ## Both passes -/

section Run

variable {policy : Policy} (h : 0 ≤ policy.primarySources) (fetch : String → Fetched α)
  (sources more : List String)

include h

theorem primary_run_of_nonneg :
    (run policy fetch sources).primary =
      pass fetch policy.primaryCap policy.targetTotal 0
        (sources.take policy.primarySources.toNat) := by
  rw [primary_run, take_primaryCount h]

theorem fallbackCalls_run_of_nonneg :
    (run policy fetch sources).fallbackCalls =
      if policy.fallbackFloor ≤ collected policy fetch sources then []
      else pass fetch policy.fallbackCap policy.targetTotal (collected policy fetch sources)
        (sources.drop policy.primarySources.toNat) := by
  rw [fallbackCalls_run, drop_primaryCount h]

theorem prefix_primary_run_append :
    (run policy fetch sources).primary <+: (run policy fetch (sources ++ more)).primary := by
  rw [primary_run_of_nonneg h, primary_run_of_nonneg h, List.take_append]
  exact prefix_pass_append fetch _ _ _ _ _

/-- Only primary sources that are still wanting can be added to the primary pass. -/
theorem primary_run_append (hfull : policy.primarySources.toNat ≤ sources.length) :
    (run policy fetch (sources ++ more)).primary = (run policy fetch sources).primary := by
  rw [primary_run_of_nonneg h, primary_run_of_nonneg h, List.take_append_of_le_length hfull]

/-- Without sources beyond the primary ones there is no call of a fallback pass. -/
theorem fallbackCalls_run_of_length_le (hshort : sources.length ≤ policy.primarySources.toNat) :
    (run policy fetch sources).fallbackCalls = [] := by
  rw [fallbackCalls_run_of_nonneg h, List.drop_of_length_le hshort, pass, ite_self]

theorem prefix_fallbackCalls_run_append
    (hfull : policy.primarySources.toNat ≤ sources.length) :
    (run policy fetch sources).fallbackCalls <+:
      (run policy fetch (sources ++ more)).fallbackCalls := by
  have hcollected : collected policy fetch (sources ++ more) = collected policy fetch sources := by
    rw [collected, collected, primary_run_append h fetch sources more hfull]
  rw [fallbackCalls_run_of_nonneg h, fallbackCalls_run_of_nonneg h, hcollected,
    List.drop_append_of_le_length hfull]
  split
  · exact List.prefix_refl _
  · exact prefix_pass_append fetch _ _ _ _ _

theorem prefix_calls_run_append :
    (run policy fetch sources).calls <+: (run policy fetch (sources ++ more)).calls := by
  rw [calls, calls]
  rcases Nat.le_total policy.primarySources.toNat sources.length with hfull | hshort
  · -- The primary pass is the same, and with it the decision on the fallback pass.
    rw [primary_run_append h fetch sources more hfull]
    exact (List.prefix_append_right_inj _).2
      (prefix_fallbackCalls_run_append h fetch sources more hfull)
  · rw [fallbackCalls_run_of_length_le h fetch sources hshort, List.append_nil]
    exact (prefix_primary_run_append h fetch sources more).trans (List.prefix_append _ _)

/-- With more sources at the end an aggregation begins with the same calls and the
same items. -/
theorem run_append_extends :
    (run policy fetch sources).calls <+: (run policy fetch (sources ++ more)).calls ∧
      (run policy fetch sources).items <+: (run policy fetch (sources ++ more)).items := by
  have hcalls := prefix_calls_run_append h fetch sources more
  exact ⟨hcalls, prefix_contributions hcalls⟩

end Run

/-- Two primary sources of up to three items each, and up to four of every other. -/
def pairFirst : Policy :=
  { primarySources := 2, primaryCap := 3, fallbackCap := 4, targetTotal := 8 }

/-- Three elements and then a fault. -/
def faultAfterThree (_ : String) : Fetched Nat :=
  .onDemand [1, 2, 3] (some (.defect .emptyList))

/-- A second primary source and two fallback sources come after a single source;
the last call is for no more than the room that is left, and so meets no fault. -/
theorem run_faultAfterThree_extends :
    0 ≤ pairFirst.primarySources ∧
      (run pairFirst faultAfterThree ["a"]).items = [1, 2, 3] ∧
      (run pairFirst faultAfterThree ["a", "b", "c", "d"]).items = [1, 2, 3, 1, 2, 3, 1, 2] ∧
      (run pairFirst faultAfterThree ["a"]).calls <+:
          (run pairFirst faultAfterThree ["a", "b", "c", "d"]).calls ∧
        (run pairFirst faultAfterThree ["a"]).items <+:
          (run pairFirst faultAfterThree ["a", "b", "c", "d"]).items :=
  ⟨by decide, by rfl, by rfl,
    run_append_extends (by decide) faultAfterThree ["a"] ["b", "c", "d"]⟩

end KidsListing.Aggregation
