import KidsListing.Service.CrossOrigin
import KidsListing.Service.Endpoints
import KidsListing.Service.Query

/-!
# The web service

Requests and responses.  Five paths are served, to the method `GET` alone; a
path that differs from one of them by slashes at its end is redirected there.
A refused request is answered with status 400 and a failure of the provider
service with 502, while a defect leaves the request without a response; and so does a
document that cannot be written.
-/

namespace KidsListing

structure Request where
  host : String
  method : String
  path : String
  query : String
  headers : List (String × String)

inductive Payload where
  | document (document : Document)
  | text (text : String)

structure Response where
  status : Nat
  headers : List (String × String)
  payload : Payload

inductive Route where
  | health
  | search
  | videos
  | trending
  | channels
  deriving DecidableEq, Repr

/-- How writing a document fails, if it does.  A writer may refuse integers of too many
digits, or texts with characters that stand in for surrogates. -/
abbrev Writer := Document → Option Defect

/-- The service with its settings, its channels, the origins it allows and the writer of its
documents. -/
structure Service where
  settings : Settings := {}
  channels : List String := Channels.builtIn
  origins : Origins := Origins.default
  writer : Writer := fun _ => none

namespace Route

def all : List Route := [.health, .search, .videos, .trending, .channels]

def path : Route → String
  | .health => "/health"
  | .search => "/kids/search"
  | .videos => "/kids/videos"
  | .trending => "/trending"
  | .channels => "/kids/channels"

/-- The route of a path, which may end in one line feed more. -/
def find? (path : String) : Option Route :=
  all.find? fun route => path = route.path ∨ path = route.path ++ "\n"

/-- The path without the slashes at its end, if there are any. -/
def withoutSlashes? (path : String) : Option String :=
  let reversed := path.toList.reverse
  if reversed.head? = some '/' then
    some (String.ofList (reversed.dropWhile (· == '/')).reverse)
  else none

end Route

namespace Response

def json (status : Nat) (document : Document) : Response :=
  ⟨status, [("content-type", "application/json")], .document document⟩

def detail (status : Nat) (text : String) : Response :=
  json status (.object [("detail", .text text)])

def notFound : Response := detail 404 "Not Found"

def methodNotAllowed : Response :=
  let refusal := detail 405 "Method Not Allowed"
  { refusal with headers := ("allow", "GET") :: refusal.headers }

def redirect (host path query : String) : Response :=
  let address := "http://" ++ host ++ path ++ (if query = "" then "" else "?" ++ query)
  ⟨307, [("location", String.ofList (Query.percentEncode address.toList))], .text ""⟩

def refused (problem : RequestProblem) : Response :=
  json 400 (.object [
    ("detail", .text problem.message),
    ("error_code", .text "invalid_request")])

def failure (problem : ProviderProblem) : Document :=
  .object [
    ("detail", .text problem.message),
    ("error_code", .text "upstream_error"),
    ("upstream_status", (problem.status.map Document.int).getD .null)]

/-- The response with a document, if it can be written. -/
def written (writer : Writer) (status : Nat) (document : Document) : Except Fault Response :=
  match writer document with
  | none => .ok (json status document)
  | some defect => .error (.defect defect)

/-- The response to an outcome; a defect has none, whether it was met before or in writing
the document.  A refusal and a failure with a status are in the words of the service itself,
which are always written; a failure without one quotes the reason. -/
def ofOutcome (writer : Writer) : Except Fault Document → Except Fault Response
  | .ok document => written writer 200 document
  | .error (.request problem) => .ok (refused problem)
  | .error (.provider problem) =>
      if problem.status = none then written writer 502 (failure problem)
      else .ok (json 502 (failure problem))
  | .error (.defect defect) => .error (.defect defect)

end Response

namespace Service

def listed (videos : List Video) : Document :=
  .list (videos.map Video.toDocument)

def serve (service : Service) (provider : Provider) (query : String) (route : Route) :
    Run Document :=
  let catalogue := Catalogue.ofProvider service.settings provider
  let parameter := Query.value? query.toList
  match route with
  | .health => pure Endpoint.health
  | .search =>
      SearchPage.toDocument <$> Endpoint.search catalogue (parameter "q") (parameter "filter")
  | .videos | .trending =>
      listed <$> Endpoint.videos catalogue service.channels (parameter "region")
  | .channels =>
      listed <$> Endpoint.channels catalogue service.channels (parameter "region")

/-- The response to a request that is not for leave. -/
def dispatch (service : Service) (provider : Provider) (request : Request) : Run Response :=
  match Route.find? request.path with
  | some route =>
      if request.method = "GET" then
        let run := service.serve provider request.query route
        ⟨Response.ofOutcome service.writer run.outcome, run.events⟩
      else pure .methodNotAllowed
  | none =>
      match (Route.withoutSlashes? request.path).filter fun path => (Route.find? path).isSome with
      | some path => pure (.redirect request.host path request.query)
      | none => pure .notFound

def respond (service : Service) (provider : Provider) (request : Request) : Run Response :=
  match CrossOrigin.preflight? request.method request.headers with
  | some preflight =>
      let verdict := preflight.verdict service.origins
      pure ⟨verdict.1,
        ("content-type", "text/plain; charset=utf-8") :: preflight.headers service.origins,
        .text verdict.2⟩
  | none => do
      let response ← service.dispatch provider request
      return { response with
        headers := response.headers ++ CrossOrigin.answerHeaders service.origins request.headers }

end Service

end KidsListing
