/-!
# Faults

Every way in which a request can go wrong is a value.  A request may be refused
for its parameters, the provider may fail, or a defect may show that
neither accounts for; `Fault.message` words each of them.
-/

namespace KidsListing

/-- Why a request is refused before anything is asked of the provider. -/
inductive RequestProblem where
  | missing (parameter : String)
  | queryTooLong
  | other (message : String)
  deriving DecidableEq, Repr

/-- How the provider failed. -/
inductive ProviderProblem where
  | unreachable (reason : String)
  | refused (status : Int)
  | notJson (status : Int)
  | other (message : String) (status : Option Int)
  deriving DecidableEq, Repr

/-- A failure that is nobody's request and no answer of the provider. -/
inductive Defect where
  | runtime (message : String)
  | system (message : String)
  | missingKey (message : String)
  | assertion (message : String)
  | notIterable
  | argumentNotTaken
  | noLength (kind : String)
  | noEntries (kind : String)
  | emptyList
  | limitTooLarge
  | numeralTooLong
  | countTooLarge
  | notUtf8
  deriving DecidableEq, Repr

inductive Fault where
  | request (problem : RequestProblem)
  | provider (problem : ProviderProblem)
  | defect (defect : Defect)
  deriving DecidableEq, Repr

def RequestProblem.message : RequestProblem → String
  | .missing parameter => parameter ++ " is a required parameter"
  | .queryTooLong => "query is too long"
  | .other message => message

def ProviderProblem.message : ProviderProblem → String
  | .unreachable reason => "YouTube Kids is unreachable: " ++ reason
  | .refused status => "YouTube Kids API returned error: " ++ toString status
  | .notJson _ => "YouTube Kids API returned a body that is not JSON"
  | .other message _ => message

/-- The status that the provider answered with, when it answered. -/
def ProviderProblem.status : ProviderProblem → Option Int
  | .unreachable _ => none
  | .refused status => some status
  | .notJson status => some status
  | .other _ status => status

def Defect.message : Defect → String
  | .runtime message => message
  | .system message => message
  | .missingKey message => message
  | .assertion message => message
  | .notIterable => "value has no elements"
  | .argumentNotTaken => "home_videos() takes 1 positional argument but 2 were given"
  | .noLength kind => "object of type '" ++ kind ++ "' has no len()"
  | .noEntries kind => "'" ++ kind ++ "' object has no attribute 'get'"
  | .emptyList => "list index out of range"
  | .limitTooLarge => "limit is too large"
  | .numeralTooLong => "numeral has too many digits"
  | .countTooLarge => "count is too large"
  | .notUtf8 => "octets are not UTF-8"

def Fault.message : Fault → String
  | .request p => p.message
  | .provider p => p.message
  | .defect d => d.message

end KidsListing
