import KidsListing.Configuration.Origins

/-!
# Cross-origin requests

Pages of an allowed origin may read the answers of the service, and every
answer tells so in its headers.  Before an unusual request a browser asks for
leave with a preflight request, which is answered on the spot.  Leave to come
from a public page into a private network is never given.
-/

namespace KidsListing.CrossOrigin

abbrev Headers := List (String × String)

/-- The value of a header; the case of its name does not matter. -/
def header? (headers : Headers) (name : String) : Option String :=
  (headers.find? fun h => h.1.toLower = name).map Prod.snd

def methods : List String :=
  ["DELETE", "GET", "HEAD", "OPTIONS", "PATCH", "POST", "PUT", "QUERY"]

def credentialHeaders (origins : Origins) : Headers :=
  if origins.credentials then [("access-control-allow-credentials", "true")] else []

/-- The headers of an ordinary answer.  Without an origin the answer only says
that it would depend on one. -/
def answerHeaders (origins : Origins) (headers : Headers) : Headers :=
  match header? headers "origin" with
  | none => [("vary", "Origin")]
  | some origin =>
      [("vary", "Origin")] ++ credentialHeaders origins ++
        (if origin ∈ origins.allowed then [("access-control-allow-origin", origin)] else [])

/-- A request for leave: its origin, the method it asks for, the headers it asks
for if it does, and whether it asks to enter a private network. -/
structure Preflight where
  origin : String
  method : String
  requestedHeaders : Option String
  privateNetwork : Bool

def preflight? (method : String) (headers : Headers) : Option Preflight :=
  if method = "OPTIONS" then
    match header? headers "origin", header? headers "access-control-request-method" with
    | some origin, some requested =>
        some ⟨origin, requested, header? headers "access-control-request-headers",
          (header? headers "access-control-request-private-network").isSome⟩
    | _, _ => none
  else none

namespace Preflight

def failures (origins : Origins) (p : Preflight) : List String :=
  (if p.origin ∈ origins.allowed then [] else ["origin"]) ++
    (if p.method ∈ methods then [] else ["method"]) ++
    (if p.privateNetwork then ["private-network"] else [])

def headers (origins : Origins) (p : Preflight) : Headers :=
  [("vary", "Origin, Access-Control-Request-Method, Access-Control-Request-Headers, " ++
      "Access-Control-Request-Private-Network"),
    ("access-control-allow-methods", ", ".intercalate methods),
    ("access-control-max-age", "600")] ++
    credentialHeaders origins ++
    (if p.origin ∈ origins.allowed then [("access-control-allow-origin", p.origin)] else []) ++
    (p.requestedHeaders.map fun names => ("access-control-allow-headers", names)).toList

/-- The status and the text of the answer. -/
def verdict (origins : Origins) (p : Preflight) : Nat × String :=
  match p.failures origins with
  | [] => (200, "OK")
  | failures => (400, "Disallowed CORS " ++ ", ".intercalate failures)

end Preflight

end KidsListing.CrossOrigin
