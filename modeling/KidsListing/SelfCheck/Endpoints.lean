import KidsListing.Service.Endpoints
import KidsListing.Video.Fields

/-!
# Endpoints under check

The endpoints as the self-check calls them.  Each is the service's own or a
replacement that does a few prescribed things in order.  Of a listing only its
length is looked at.
-/

namespace KidsListing.SelfCheck

/-- The named arguments of a call; an absent one may be listed as `none`. -/
abbrev Arguments := List (String × Option String)

structure Replacement (α : Type) where
  needs : Option String := none
  calls : List Listing := []
  ending : Except Fault α

/-- The listings that a check runs over, and which of them are stand-ins. -/
structure Stage where
  catalogue : Catalogue
  standIns : List Listing := []

/-- Asks a stand-in for its listing, whatever the argument, and drops it. -/
def askStandIn (catalogue : Catalogue) : Listing → Run Unit
  | .search => do
      let _ ← catalogue.search none
      return ()
  | .home => do
      let _ ← catalogue.home
      return ()
  | .curated => do
      let _ ← catalogue.curated []
      return ()

/-- Asks for one of the service's own listings with an empty argument: a search
refuses an empty query, the home listing takes no argument at all, and the
curated listing asks for the length of its channels. -/
def askOwn (catalogue : Catalogue) : Listing → Run Unit
  | .search => do
      let _ ← catalogue.search none
      return ()
  | .home => .fail (.defect .argumentNotTaken)
  | .curated => .fail (.defect (.noLength Document.null.kindWord))

def consult (stage : Stage) (listing : Listing) : Run Unit :=
  if listing ∈ stage.standIns then askStandIn stage.catalogue listing
  else askOwn stage.catalogue listing

def consultAll (stage : Stage) : List Listing → Run Unit
  | [] => pure ()
  | listing :: rest => do
      consult stage listing
      consultAll stage rest

/-- An argument that is needed must be there and not be empty. -/
def requireArgument (arguments : Arguments) : Option String → Run Unit
  | none => pure ()
  | some name =>
      match ((arguments.find? fun a => a.1 = name).bind Prod.snd).getD "" with
      | "" => .fail (.request (.missing name))
      | _ => pure ()

/-- The length of what an endpoint gave in place of a listing. -/
def lengthOf (given : Document) : Except Fault Nat :=
  match given.parts? with
  | some parts => .ok parts.length
  | none => .error (.defect (.noLength given.kindWord))

def Replacement.run {α : Type} (r : Replacement α) (stage : Stage) (arguments : Arguments) :
    Run α := do
  requireArgument arguments r.needs
  consultAll stage r.calls
  Run.ofExcept r.ending

structure Replacements where
  health : Option (Replacement Document) := none
  search : Option (Replacement SearchPage) := none
  videos : Option (Replacement Nat) := none
  trending : Option (Replacement Nat) := none
  channels : Option (Replacement Nat) := none

structure Endpoints where
  health : Stage → Run Document
  search : Stage → (query filter : Option String) → Run SearchPage
  videos : Stage → (region : Option String) → Run Nat
  trending : Stage → (region : Option String) → Run Nat
  channels : Stage → (region : Option String) → Run Nat

namespace Endpoints

/-- The service's endpoints over its channels, some of them replaced.  The own
trending endpoint is whatever the videos endpoint is. -/
def of (curated : List String) (replaced : Replacements) : Endpoints :=
  let videos (stage : Stage) (region : Option String) : Run Nat :=
    match replaced.videos with
    | some r => r.run stage [("region", region)]
    | none => List.length <$> Endpoint.videos stage.catalogue curated region
  { health := fun stage =>
      match replaced.health with
      | some r => r.run stage []
      | none => pure Endpoint.health
    search := fun stage query filter =>
      match replaced.search with
      | some r => r.run stage [("q", query), ("filter", filter)]
      | none => Endpoint.search stage.catalogue query filter
    videos
    trending := fun stage region =>
      match replaced.trending with
      | some r => r.run stage [("region", region)]
      | none => videos stage region
    channels := fun stage region =>
      match replaced.channels with
      | some r => r.run stage [("region", region)]
      | none => List.length <$> Endpoint.channels stage.catalogue curated region }

end Endpoints

end KidsListing.SelfCheck
