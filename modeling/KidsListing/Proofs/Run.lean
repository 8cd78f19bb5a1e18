import KidsListing.Run

/-!
# Composing runs

What a composed run ends in and which events lead there, by the outcome of its
first part.  The posts and the log entries of a run are those of its parts, one
after the other.
-/

namespace KidsListing.Run

variable {α β : Type}

theorem bind_of_ok {run : Run α} {a : α} (h : run.outcome = .ok a) (next : α → Run β) :
    run >>= next = ⟨(next a).outcome, run.events ++ (next a).events⟩ := by
  change run.andThen next = _
  rw [andThen, h]

theorem bind_of_error {run : Run α} {fault : Fault} (h : run.outcome = .error fault)
    (next : α → Run β) : run >>= next = ⟨.error fault, run.events⟩ := by
  change run.andThen next = _
  rw [andThen, h]

@[simp]
theorem outcome_map (f : α → β) (run : Run α) :
    (f <$> run).outcome = run.outcome.map f := by
  rw [map_eq_pure_bind]
  cases h : run.outcome with
  | ok a => rw [bind_of_ok h]; rfl
  | error fault => rw [bind_of_error h]; rfl

@[simp]
theorem events_map (f : α → β) (run : Run α) : (f <$> run).events = run.events := by
  rw [map_eq_pure_bind]
  cases h : run.outcome with
  | ok a => rw [bind_of_ok h]; exact List.append_nil _
  | error fault => rw [bind_of_error h]

@[simp]
theorem posts_map (f : α → β) (run : Run α) : (f <$> run).posts = run.posts := by
  rw [posts, events_map]
  rfl

/-- The entries that are logged above the level of debugging. -/
def notes (run : Run α) : List LogEntry :=
  run.logs.filter fun entry => entry.level ≠ .debug

section Parts

variable (outcome : Except Fault α) (other : Except Fault β) (events others : List Event)

theorem posts_append :
    posts ⟨outcome, events ++ others⟩ = posts ⟨outcome, events⟩ ++ posts ⟨other, others⟩ :=
  List.filterMap_append

theorem logs_append :
    logs ⟨outcome, events ++ others⟩ = logs ⟨outcome, events⟩ ++ logs ⟨other, others⟩ :=
  List.filterMap_append

theorem notes_append :
    notes ⟨outcome, events ++ others⟩ = notes ⟨outcome, events⟩ ++ notes ⟨other, others⟩ := by
  simp only [notes, logs_append outcome other, List.filter_append]

end Parts

theorem posts_bind_of_ok {run : Run α} {a : α} (h : run.outcome = .ok a) (next : α → Run β) :
    (run >>= next).posts = run.posts ++ (next a).posts := by
  rw [bind_of_ok h]
  exact posts_append _ _ _ _

theorem notes_bind_of_ok {run : Run α} {a : α} (h : run.outcome = .ok a) (next : α → Run β) :
    (run >>= next).notes = run.notes ++ (next a).notes := by
  rw [bind_of_ok h]
  exact notes_append _ _ _ _

end KidsListing.Run
