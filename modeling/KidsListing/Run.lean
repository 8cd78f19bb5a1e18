import KidsListing.Log
import KidsListing.Provider.Post

/-!
# Runs

A run is an outcome together with the events on the way to it, in order: the
posts made to the provider, the entries logged, and the listings that were asked of a
stand-in for the provider.  Runs compose one after the other, and a
fault ends a run with the events so far.
-/

namespace KidsListing

/-- The listings that the service puts together. -/
inductive Listing where
  | search
  | home
  | curated
  deriving DecidableEq, Repr

inductive Event where
  | posted (post : Post)
  | logged (entry : LogEntry)
  | stoodIn (listing : Listing)

structure Run (α : Type) where
  outcome : Except Fault α
  events : List Event := []

namespace Run

def fail {α : Type} (fault : Fault) : Run α := ⟨.error fault, []⟩

def emit (event : Event) : Run Unit := ⟨.ok (), [event]⟩

def log (entry : LogEntry) : Run Unit := emit (.logged entry)

def ofExcept {α : Type} (outcome : Except Fault α) : Run α := ⟨outcome, []⟩

/-- The second run starts where the first one ends. -/
def andThen {α β : Type} (first : Run α) (next : α → Run β) : Run β :=
  match first.outcome with
  | .error fault => ⟨.error fault, first.events⟩
  | .ok a =>
      let second := next a
      ⟨second.outcome, first.events ++ second.events⟩

instance : Monad Run where
  pure a := ⟨.ok a, []⟩
  bind := andThen

theorem andThen_pure {α : Type} (run : Run α) : run.andThen pure = run := by
  obtain ⟨outcome, events⟩ := run
  cases outcome with
  | error fault => rfl
  | ok a => simp [andThen, pure]

theorem andThen_assoc {α β γ : Type} (run : Run α) (f : α → Run β) (g : β → Run γ) :
    (run.andThen f).andThen g = run.andThen fun a => (f a).andThen g := by
  obtain ⟨outcome, events⟩ := run
  cases outcome with
  | error fault => rfl
  | ok a =>
      simp only [andThen]
      cases (f a).outcome with
      | error fault => rfl
      | ok b => simp

/-- Runs compose like the programs they are runs of. -/
instance : LawfulMonad Run :=
  LawfulMonad.mk' Run andThen_pure (fun _ _ => rfl) andThen_assoc

def posts {α : Type} (run : Run α) : List Post :=
  run.events.filterMap fun
    | .posted post => some post
    | _ => none

def logs {α : Type} (run : Run α) : List LogEntry :=
  run.events.filterMap fun
    | .logged entry => some entry
    | _ => none

/-- How often a listing was asked of a stand-in. -/
def standIns {α : Type} (run : Run α) (listing : Listing) : Nat :=
  run.events.countP fun
    | .stoodIn l => l = listing
    | _ => false

end Run

end KidsListing
