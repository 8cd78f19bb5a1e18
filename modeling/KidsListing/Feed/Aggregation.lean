import KidsListing.Fault

/-!
# Aggregation

Items are collected from an ordered list of sources, best effort.  A primary
pass takes some items from each of the first sources; when it collects fewer
than a floor, a fallback pass goes on through the other sources.  Both passes
stop once the target is reached.  What each call was limited to and what it
gave is kept, and the items are what the calls contributed, in order.
-/

namespace KidsListing

/-- How many sources, and how much of each, a collection takes.  The primary
count may be negative and then counts from the end of the sources. -/
structure Policy where
  primarySources : Int := 5
  primaryCap : Int := 4
  fallbackCap : Int := 3
  targetTotal : Int := 20
  fallbackFloor : Int := 15
  deriving DecidableEq, Repr

/-- What fetching a source gives: a fault at once, something that has no
elements, elements that are all there, or elements that come one at a time and
may end in a fault.  Of elements without end no more matter than are asked for. -/
inductive Fetched (α : Type) where
  | raised (fault : Fault)
  | notIterable
  | ready (items : List α)
  | onDemand (items : List α) (ending : Option Fault)

/-- The most elements that can be asked for: the largest index of a machine
with words of 64 bits. -/
def maxLimit : Nat := 9223372036854775807

/-- What an on-demand sequence answers when it is asked for one element more. -/
inductive Answer (α : Type) where
  | element (x : α)
  | finished
  | failed (fault : Fault)

namespace Answer

variable {α : Type}

def element? : Answer α → Option α
  | .element x => some x
  | _ => none

/-- The answers to asking for an element at most so many times; after an answer
that is no element there is no more asking. -/
def sequence (ending : Option Fault) : Nat → List α → List (Answer α)
  | 0, _ => []
  | n + 1, x :: rest => .element x :: sequence ending n rest
  | _ + 1, [] =>
      match ending with
      | none => [.finished]
      | some fault => [.failed fault]

end Answer

namespace Fetched

variable {α : Type}

/-- The first elements up to a limit.  A fault at the end is met only when an
element beyond the last one is asked for. -/
def elements (limit : Nat) : Fetched α → Except Fault (List α)
  | .raised fault => .error fault
  | .notIterable => .error (.defect .notIterable)
  | .ready items => .ok (items.take limit)
  | .onDemand items none => .ok (items.take limit)
  | .onDemand items (some fault) =>
      if items.length < limit then .error fault else .ok (items.take limit)

/-- The first elements up to a limit, which must not be too large unless there
is a fault at once. -/
def take (limit : Nat) (fetched : Fetched α) : Except Fault (List α) :=
  match fetched with
  | .raised fault => .error fault
  | _ =>
      if maxLimit < limit then .error (.defect .limitTooLarge) else fetched.elements limit

theorem length_elements_le {limit : Nat} {fetched : Fetched α} {items : List α}
    (h : fetched.elements limit = .ok items) : items.length ≤ limit := by
  cases fetched with
  | raised fault => simp [elements] at h
  | notIterable => simp [elements] at h
  | ready all =>
      obtain rfl := Except.ok.inj h
      exact List.length_take_le limit all
  | onDemand all ending =>
      cases ending with
      | none =>
          obtain rfl := Except.ok.inj h
          exact List.length_take_le limit all
      | some fault =>
          simp only [elements] at h
          split at h
          · simp at h
          · obtain rfl := Except.ok.inj h
            exact List.length_take_le limit all

theorem length_take_le {limit : Nat} {fetched : Fetched α} {items : List α}
    (h : fetched.take limit = .ok items) : items.length ≤ limit := by
  unfold take at h
  split at h
  · simp at h
  · split at h
    · simp at h
    · exact length_elements_le h

/-- The number of elements that come one at a time in taking up to a limit.  None is asked
for when the limit is too large. -/
def pulled (limit : Nat) : Fetched α → Nat
  | .onDemand items ending =>
      if maxLimit < limit then 0
      else ((Answer.sequence ending limit items).filterMap Answer.element?).length
  | _ => 0

end Fetched

/-- One fetch of a source, with the number of elements that were wanted. -/
structure Call (α : Type) where
  source : String
  limit : Nat
  fetched : Fetched α

namespace Call

variable {α : Type}

/-- A call that fails contributes nothing, whatever it gave before. -/
def contribution (call : Call α) : List α :=
  match call.fetched.take call.limit with
  | .ok items => items
  | .error _ => []

theorem length_contribution_le (call : Call α) : call.contribution.length ≤ call.limit := by
  unfold contribution
  split
  · rename_i items h
    exact Fetched.length_take_le h
  · simp

def fault? (call : Call α) : Option Fault :=
  match call.fetched.take call.limit with
  | .ok _ => none
  | .error fault => some fault

def pulled (call : Call α) : Nat :=
  call.fetched.pulled call.limit

end Call

/-- The calls of the primary pass and, if there was a fallback pass, those of
the latter and the number of sources that it had. -/
structure Aggregation (α : Type) where
  primary : List (Call α)
  fallback : Option (Nat × List (Call α))

namespace Aggregation

variable {α : Type}

def contributions (calls : List (Call α)) : List α :=
  calls.flatMap Call.contribution

/-- The most that a call may take when some items are there already. -/
def limit (cap target : Int) (collected : Nat) : Nat :=
  (min cap (target - collected)).toNat

/-- The calls of one pass, which stops once the target is reached. -/
def pass (fetch : String → Fetched α) (cap target : Int) : Nat → List String → List (Call α)
  | _, [] => []
  | collected, source :: rest =>
      if target ≤ collected then []
      else
        let call : Call α := ⟨source, limit cap target collected, fetch source⟩
        call :: pass fetch cap target (collected + call.contribution.length) rest

/-- The number of sources in the primary pass. -/
def primaryCount (policy : Policy) (sources : List String) : Nat :=
  if policy.primarySources < 0 then (sources.length + policy.primarySources).toNat
  else min policy.primarySources.toNat sources.length

/-- An aggregation of sources by what fetching them gives.  A source is no more than a label:
of one that changes from call to call each call has a label of its own. -/
def run (policy : Policy) (fetch : String → Fetched α) (sources : List String) :
    Aggregation α :=
  let count := primaryCount policy sources
  let primary := pass fetch policy.primaryCap policy.targetTotal 0 (sources.take count)
  let remaining := sources.drop count
  let collected := (contributions primary).length
  if policy.fallbackFloor ≤ collected ∨ remaining = [] then ⟨primary, none⟩
  else
    ⟨primary, some (remaining.length,
      pass fetch policy.fallbackCap policy.targetTotal collected remaining)⟩

def fallbackCalls (a : Aggregation α) : List (Call α) :=
  match a.fallback with
  | some (_, calls) => calls
  | none => []

def calls (a : Aggregation α) : List (Call α) :=
  a.primary ++ a.fallbackCalls

def items (a : Aggregation α) : List α :=
  contributions a.calls

end Aggregation

end KidsListing
