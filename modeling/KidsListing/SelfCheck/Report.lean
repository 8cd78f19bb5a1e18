import KidsListing.SelfCheck.Endpoints

/-!
# The self-check

Six checks of the endpoints, run one after the other over stand-ins for the
listings.  A check that meets a fault has failed, and the others still run.
The report has a line for each check and then a summary; its exit code is zero
exactly when every check passed.
-/

namespace KidsListing.SelfCheck

def sampleVideo (id : String) : Video where
  url := Fragment.watchUrl id
  title := "Video " ++ id
  thumbnailUrl := "https://i.ytimg.com/vi/" ++ id ++ "/hqdefault.jpg"
  uploaderName := "Smoke Channel"
  uploaderUrl := some "/channel/UC_SMOKE"
  durationSeconds := 125
  viewCount := 1200
  url_ne_empty := Fragment.watchUrl_ne_empty id

/-- A listing that only notes that it was asked for. -/
def standIn {α : Type} (listing : Listing) (outcome : Except Fault α) : Run α :=
  ⟨outcome, [.stoodIn listing]⟩

def require (condition : Bool) (message : String) : Run Unit :=
  if condition then pure () else .fail (.defect (.assertion message))

/-- A run that must be refused for its parameters. -/
def requireRefusal {α : Type} (run : Run α) (message : String) : Run Unit :=
  match run.outcome with
  | .error (.request _) => ⟨.ok (), run.events⟩
  | .error fault => ⟨.error fault, run.events⟩
  | .ok _ => ⟨.error (.defect (.assertion message)), run.events⟩

def firstItem (page : SearchPage) : Run Video :=
  match page.items with
  | video :: _ => pure video
  | [] => .fail (.defect .emptyList)

def itemKeys : List String := [
  "url", "title", "thumbnailUrl", "uploaderName", "uploaderUrl", "uploaderAvatarUrl",
  "uploadedDateText", "shortDescription", "durationSeconds", "viewCount", "uploadedTimestamp",
  "uploaderVerified", "isShort"]

def hasKeys (document : Document) (keys : List String) : Bool :=
  match document with
  | .object entries => keys.all fun key => (Document.lookup key entries).isSome
  | _ => false

def isTrue : Document → Bool
  | .bool value => value
  | _ => false

structure Check where
  name : String
  run : Catalogue → Endpoints → Run Unit

def health : Check where
  name := "health"
  run catalogue endpoints := do
    let payload ← endpoints.health { catalogue }
    if !payload.isObject then .fail (.defect (.noEntries payload.kindWord))
    else require (isTrue (payload.step (.key "ok"))) "/health should return ok=true"

def searchShape : Check where
  name := "search shape"
  run catalogue endpoints := do
    let page : SearchPage := { items := [sampleVideo "s1"] }
    let stood := { catalogue with search := fun _ => standIn .search (.ok page) }
    let stage : Stage := { catalogue := stood, standIns := [.search] }
    let run := endpoints.search stage (some "dinosaurs") (some "videos")
    let payload ← run
    require (run.standIns .search = 1) "/kids/search should query upstream once"
    require payload.nextPageToken.isNone "/kids/search should not paginate"
    require (!payload.corrected) "/kids/search corrected should be false"
    let item ← firstItem payload
    require (hasKeys item.toDocument itemKeys) "/kids/search item shape is missing keys"

def emptyQuery : Check where
  name := "search rejects empty query"
  run catalogue endpoints :=
    requireRefusal (endpoints.search { catalogue } (some "") none)
      "/kids/search should reject an empty query"

def homeListing : Check where
  name := "videos home feed"
  run catalogue endpoints := do
    let stood := { catalogue with
      home := standIn .home (.ok [sampleVideo "h1"])
      curated := fun _ => standIn .curated (.ok []) }
    let stage : Stage := { catalogue := stood, standIns := [.home, .curated] }
    let run := endpoints.videos stage (some "US")
    let length ← run
    require (length = 1) "/kids/videos should return the home feed"
    require (run.standIns .curated = 0)
      "/kids/videos should not aggregate when home has items"

def curatedFallback : Check where
  name := "videos curated fallback"
  run catalogue endpoints := do
    let stood := { catalogue with
      home := standIn .home (.error (.provider (.other "down" (some 503))))
      curated := fun _ => standIn .curated (.ok [sampleVideo "c1", sampleVideo "c2"]) }
    let stage : Stage := { catalogue := stood, standIns := [.home, .curated] }
    let length ← endpoints.trending stage (some "US")
    require (length = 2) "/trending should fall back to curated channels"

def missingRegion : Check where
  name := "channels requires region"
  run catalogue endpoints :=
    requireRefusal (endpoints.channels { catalogue } none)
      "/kids/channels should require region"

def checks : List Check :=
  [health, searchShape, emptyQuery, homeListing, curatedFallback, missingRegion]

/-- What came of a check: the message of the fault that it met, if any. -/
structure Finding where
  name : String
  failure : Option String
  logs : List LogEntry

def Check.finding (check : Check) (catalogue : Catalogue) (endpoints : Endpoints) : Finding :=
  let run := check.run catalogue endpoints
  { name := check.name
    failure :=
      match run.outcome with
      | .ok () => none
      | .error fault => some fault.message
    logs := run.logs }

namespace Finding

def line (finding : Finding) : String :=
  match finding.failure with
  | none => "[PASS] " ++ finding.name
  | some message => "[FAIL] " ++ finding.name ++ ": " ++ message

def summary? (finding : Finding) : Option String :=
  finding.failure.map fun message => "- " ++ finding.name ++ ": " ++ message

end Finding

structure Report where
  findings : List Finding

namespace Report

def failures (report : Report) : List String :=
  report.findings.filterMap Finding.summary?

def exitCode (report : Report) : Nat :=
  if report.failures = [] then 0 else 1

def summary (report : Report) : List String :=
  match report.failures with
  | [] => ["", "All smoke checks passed."]
  | failures => ["", "Smoke checks failed: " ++ toString failures.length] ++ failures

/-- The text of the report, every line of which ends in a line feed. -/
def text (report : Report) : String :=
  String.join ((report.findings.map Finding.line ++ report.summary).map (· ++ "\n"))

def logs (report : Report) : List LogEntry :=
  report.findings.flatMap Finding.logs

end Report

/-- The report on some endpoints.  The catalogue stands behind what a check does
not replace by a stand-in. -/
def report (catalogue : Catalogue) (endpoints : Endpoints) : Report where
  findings := checks.map fun check => check.finding catalogue endpoints

end KidsListing.SelfCheck
