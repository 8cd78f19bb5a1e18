import KidsListing.Document.Path
import KidsListing.Proofs.Run
import KidsListing.Provider.Client
import Mathlib.Data.List.Forall2

/-!
# Operations of the client

An operation of the client is refused before any post, or it makes exactly one
post.  The reply then decides what the operation comes to: each kind of outcome
comes from one kind of reply and from no other.  In a session of operations each
keeps to this by itself, whatever was done before it.
-/

namespace KidsListing

namespace Reply

def Successful (status : Int) : Prop :=
  200 ≤ status ∧ status ≤ 299

/-- A reply breaks off with a defect: of the post, or of reading the body of a successful
answer. -/
def Breaks (reply : Reply) (defect : Defect) : Prop :=
  reply = .broken defect ∨
    ∃ status, reply = .answered status (.broken defect) ∧ Successful status

/-- A reply accounts for an outcome.  A document is the body of a successful answer; a
failure of the provider without a status comes from an unreachable provider, and one
with a status from an answer of that status which is not successful or not JSON; and a
defect comes from a reply that breaks off with it. -/
structure AccountsFor (reply : Reply) (outcome : Except Fault Document) : Prop where
  document : ∀ root, outcome = .ok root ↔
    ∃ status, reply = .answered status (.document root) ∧ Successful status
  unreachable :
    (∃ problem, outcome = .error (.provider problem) ∧ problem.status = none) ↔
      ∃ reason, reply = .unreachable reason
  answered : ∀ status,
    (∃ problem, outcome = .error (.provider problem) ∧ problem.status = some status) ↔
      ∃ body, reply = .answered status body ∧ (¬ Successful status ∨ body = .notJson)
  broken : ∀ defect, outcome = .error (.defect defect) ↔ reply.Breaks defect
  accepted : ∀ problem, outcome ≠ .error (.request problem)

theorem successful_iff {status : Int} : Successful status ↔ 200 ≤ status ∧ status < 300 :=
  and_congr_right fun _ => Int.lt_add_one_iff.symm

theorem document_answered_of_refused {status : Int} (h : ¬ Successful status) (body : Body) :
    (answered status body).document = .error (.provider (.refused status)) :=
  if_neg (successful_iff.not.1 h)

/-- What a successful answer comes to is up to its body. -/
theorem document_answered_of_successful {status : Int} (h : Successful status) (body : Body) :
    (answered status body).document =
      match body with
      | .document root => .ok root
      | .notJson => .error (.provider (.notJson status))
      | .broken defect => .error (.defect defect) :=
  if_pos (successful_iff.1 h)

theorem accountsFor_unreachable (reason : String) :
    (unreachable reason).AccountsFor (unreachable reason).document := by
  constructor <;> simp [document, Breaks, ProviderProblem.status]

theorem accountsFor_broken (defect : Defect) :
    (broken defect).AccountsFor (broken defect).document := by
  constructor <;> simp [document, Breaks]

theorem accountsFor_answered (status : Int) (body : Body) :
    (answered status body).AccountsFor (answered status body).document := by
  by_cases hstatus : Successful status
  · rw [document_answered_of_successful hstatus]
    cases body with
    | document root => constructor <;> simp [hstatus, Breaks]
    | notJson => constructor <;> simp [Breaks, ProviderProblem.status]
    | broken defect => constructor <;> simp [hstatus, Breaks]
  · rw [document_answered_of_refused hstatus]
    constructor <;> simp [hstatus, Breaks, ProviderProblem.status]

/-- Every reply accounts for what is taken from it. -/
theorem accountsFor_document (reply : Reply) : reply.AccountsFor reply.document := by
  cases reply with
  | answered status body => exact accountsFor_answered status body
  | unreachable reason => exact accountsFor_unreachable reason
  | broken defect => exact accountsFor_broken defect

/-- A failure without a status quotes the reason for which the provider is unreachable. -/
theorem document_unreachable_iff {reply : Reply} (P : ProviderProblem → Prop) :
    (∃ problem, reply.document = .error (.provider problem) ∧ problem.status = none ∧ P problem) ↔
      ∃ reason, reply = .unreachable reason ∧ P (.unreachable reason) := by
  constructor
  · rintro ⟨problem, hdocument, hstatus, hproblem⟩
    obtain ⟨reason, rfl⟩ := reply.accountsFor_document.unreachable.1 ⟨problem, hdocument, hstatus⟩
    cases hdocument
    exact ⟨reason, rfl, hproblem⟩
  · rintro ⟨reason, rfl, hproblem⟩
    exact ⟨_, rfl, rfl, hproblem⟩

end Reply

/-! ## Posts -/

namespace Post

/-- A post tells the version of its client in its body and in a header. -/
def Tells (post : Post) (version : String) : Prop :=
  post.body.walk ["context", "client", "clientVersion"] = .text version ∧
    post.headers.lookup "x-youtube-client-version" = some version

/-- A post carries an inquiry: it goes to the address of its kind, tells the version of
its kind and has the argument in its body as it is.  The context of a search names a language
and the content that may be found, and that of a page names neither. -/
def Carries (settings : Settings) (post : Post) : Inquiry → Prop
  | .search query =>
      post.url = settings.searchUrl ∧ post.Tells settings.searchClientVersion ∧
        post.body.step "query" = .text query ∧
        post.body.walk ["context", "client", "hl"] = .text "en" ∧
        post.body.walk ["context", "client", "kidsAppInfo"] = .object [
          ("contentSettings", .object [
            ("corpusPreference", .text "KIDS_CORPUS_PREFERENCE_TWEEN"),
            ("kidsNoSearchMode", .text "YT_KIDS_NO_SEARCH_MODE_OFF")])]
  | .browse id =>
      post.url = settings.browseUrl ∧ post.Tells settings.browseClientVersion ∧
        post.body.step "browseId" = .text id ∧
        ∃ entries, post.body.walk ["context", "client"] = .object entries ∧
          "hl" ∉ entries.map Prod.fst ∧ "kidsAppInfo" ∉ entries.map Prod.fst

end Post

theorem Inquiry.carries_post (settings : Settings) (inquiry : Inquiry) :
    (inquiry.post settings).Carries settings inquiry := by
  cases inquiry with
  | search query => exact ⟨rfl, ⟨rfl, rfl⟩, rfl, rfl, rfl⟩
  | browse id =>
      have hkeys (version : String) :
          (client version).map Prod.fst = ["clientName", "clientVersion"] := rfl
      refine ⟨rfl, ⟨rfl, rfl⟩, rfl, client _, rfl, ?_⟩
      rw [hkeys]
      decide

namespace Client

/-! ## One operation -/

inductive Operation where
  | search (query : Option String)
  | browse (id : Option String)

namespace Operation

/-- The inquiry that an operation makes of its argument, if it is not refused. -/
def inquiry? : Operation → Option Inquiry
  | .search (some query) =>
      if query = "" ∨ 100 < query.length then none else some (.search query)
  | .browse (some id) => if id = "" then none else some (.browse id)
  | _ => none

def run (settings : Settings) (provider : Provider) : Operation → Run Document
  | .search query => Client.search settings provider query
  | .browse id => Client.browse settings provider id

variable (settings : Settings) (provider : Provider)

theorem run_of_inquiry {operation : Operation} {inquiry : Inquiry}
    (h : operation.inquiry? = some inquiry) :
    operation.run settings provider = ask settings provider inquiry := by
  cases operation with
  | search query =>
      cases query with
      | none => cases h
      | some query =>
          simp only [inquiry?] at h
          split at h
          · cases h
          · rename_i hquery
            obtain ⟨hempty, hlength⟩ := not_or.1 hquery
            rw [run, Client.search, Option.getD_some, if_neg hempty]
            rw [← Option.some.inj h]
            exact if_neg hlength
  | browse id =>
      cases id with
      | none => cases h
      | some id =>
          simp only [inquiry?] at h
          split at h
          · cases h
          · rename_i hid
            rw [← Option.some.inj h]
            exact if_neg hid

omit provider in
/-- Without an inquiry the provider plays no part. -/
theorem run_of_no_inquiry {operation : Operation} (h : operation.inquiry? = none) :
    ∃ problem, ∀ provider, operation.run settings provider = .fail (.request problem) := by
  cases operation with
  | search query =>
      cases query with
      | none => exact ⟨_, fun _ => rfl⟩
      | some query =>
          simp only [inquiry?] at h
          split at h
          · rename_i hquery
            by_cases hempty : query = ""
            · exact ⟨_, fun _ => if_pos hempty⟩
            · have hlength := hquery.resolve_left hempty
              exact ⟨_, fun _ => (if_neg hempty).trans (if_pos hlength)⟩
          · cases h
  | browse id =>
      cases id with
      | none => exact ⟨_, fun _ => rfl⟩
      | some id =>
          simp only [inquiry?] at h
          split at h
          · rename_i hid
            exact ⟨_, fun _ => if_pos hid⟩
          · cases h

/-- An operation comes to a refusal or to what the reply to its inquiry accounts for. -/
def ComesTo (operation : Operation) (provider : Provider) (outcome : Except Fault Document) :
    Prop :=
  match operation.inquiry? with
  | none => ∃ problem, outcome = .error (.request problem)
  | some inquiry => (provider inquiry).AccountsFor outcome

theorem comesTo_outcome_run (operation : Operation) :
    operation.ComesTo provider (operation.run settings provider).outcome := by
  cases h : operation.inquiry? with
  | none =>
      obtain ⟨problem, hrun⟩ := run_of_no_inquiry settings h
      rw [ComesTo, h, hrun]
      exact ⟨problem, rfl⟩
  | some inquiry =>
      rw [ComesTo, h, run_of_inquiry settings provider h]
      exact (provider inquiry).accountsFor_document

/-- There is no post without an inquiry, and one post for an inquiry. -/
theorem posts_run (operation : Operation) :
    (operation.run settings provider).posts =
      (operation.inquiry?.map (Inquiry.post settings)).toList := by
  cases h : operation.inquiry? with
  | none =>
      obtain ⟨problem, hrun⟩ := run_of_no_inquiry settings h
      rw [hrun provider]
      rfl
  | some inquiry =>
      rw [run_of_inquiry settings provider h]
      rfl

end Operation

/-! ## Sessions -/

/-- An operation within a session, where a fault is no more than its outcome. -/
def attempt (settings : Settings) (step : Operation × Provider) :
    Run (Except Fault Document) where
  outcome := .ok (step.1.run settings step.2).outcome
  events := (step.1.run settings step.2).events

/-- Operations one after the other, each with the provider as it is then. -/
def session (settings : Settings) (steps : List (Operation × Provider)) :
    Run (List (Except Fault Document)) :=
  steps.mapM (attempt settings)

section Session

variable (settings : Settings)

theorem session_cons (step : Operation × Provider) (rest : List (Operation × Provider)) :
    session settings (step :: rest) =
      ⟨(session settings rest).outcome.map ((step.1.run settings step.2).outcome :: ·),
        (step.1.run settings step.2).events ++ (session settings rest).events⟩ := by
  let outcome := (step.1.run settings step.2).outcome
  have hattempt : (attempt settings step).outcome = .ok outcome := rfl
  rw [session, List.mapM_cons, Run.bind_of_ok hattempt, ← map_eq_pure_bind, Run.outcome_map,
    Run.events_map]
  rfl

theorem outcome_session (steps : List (Operation × Provider)) :
    (session settings steps).outcome =
      .ok (steps.map fun step => (step.1.run settings step.2).outcome) := by
  induction steps with
  | nil => rfl
  | cons step rest ih =>
      rw [session_cons, ih]
      rfl

theorem posts_session (steps : List (Operation × Provider)) :
    (session settings steps).posts =
      (steps.filterMap fun step => step.1.inquiry?).map (Inquiry.post settings) := by
  induction steps with
  | nil => rfl
  | cons step rest ih =>
      calc
        (session settings (step :: rest)).posts =
            (step.1.run settings step.2).posts ++ (session settings rest).posts := by
          rw [session_cons]
          exact List.filterMap_append
        _ = (step.1.inquiry?.map (Inquiry.post settings)).toList ++
            (rest.filterMap fun step => step.1.inquiry?).map (Inquiry.post settings) := by
          rw [step.1.posts_run settings step.2, ih]
        _ = ((step :: rest).filterMap fun step => step.1.inquiry?).map
            (Inquiry.post settings) := by
          rw [List.filterMap_cons]
          cases step.1.inquiry? <;> rfl

end Session

/-- In a session every operation is refused, or it makes one post that carries its
inquiry, in the order of the operations, and comes to what the reply accounts for. -/
theorem session_partitioned (settings : Settings) (steps : List (Operation × Provider)) :
    ∃ outcomes, (session settings steps).outcome = .ok outcomes ∧
      List.Forall₂ (fun step => step.1.ComesTo step.2) steps outcomes ∧
      List.Forall₂ (fun inquiry post => post.Carries settings inquiry)
        (steps.filterMap fun step => step.1.inquiry?) (session settings steps).posts := by
  refine ⟨_, outcome_session settings steps, ?_, ?_⟩
  · rw [List.forall₂_map_right_iff, List.forall₂_same]
    intro step _
    exact step.1.comesTo_outcome_run settings step.2
  · rw [posts_session, List.forall₂_map_right_iff, List.forall₂_same]
    intro inquiry _
    exact inquiry.carries_post settings

end Client

end KidsListing
