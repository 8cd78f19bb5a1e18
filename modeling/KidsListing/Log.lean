import KidsListing.Configuration.LogLevel
import KidsListing.Document.Basic
import KidsListing.Fault

/-!
# Log entries

The events that the service logs.  An entry has a level, the name of the part
of the service that it comes from, and a template with the arguments that go
into it.
-/

namespace KidsListing

/-- Why a channel file could not be read. -/
inductive Unreadable where
  | directory
  | malformed
  deriving DecidableEq, Repr

inductive LogEntry where
  | posting (url : String)
  | fragmentSkipped (videoId : Document) (fault : Fault)
  | sourceSkipped (source : String) (fault : Fault)
  | primaryPassShort (collected : Nat) (floor : Int) (remaining : Nat)
  | channelsUnreadable (cause : Unreadable)
  | channelsRefused (reason : String)
  | channelsShapeless
  | homeUnavailable (problem : ProviderProblem)
  | homeEmpty (channels : Nat)

inductive LogArgument where
  | value (document : Document)
  | fault (fault : Fault)
  | channelsFile
  | unreadable (cause : Unreadable)

namespace LogEntry

def level : LogEntry → LogLevel
  | .posting .. => .debug
  | .fragmentSkipped .. => .warning
  | .sourceSkipped .. => .warning
  | .primaryPassShort .. => .info
  | .channelsUnreadable .. => .warning
  | .channelsRefused .. => .warning
  | .channelsShapeless => .warning
  | .homeUnavailable .. => .warning
  | .homeEmpty .. => .info

def logger : LogEntry → String
  | .posting .. => "kids_feed.client"
  | .fragmentSkipped .. => "kids_feed.parsing"
  | .sourceSkipped .. => "kids_feed.aggregator"
  | .primaryPassShort .. => "kids_feed.aggregator"
  | .channelsUnreadable .. => "kids_feed.sources"
  | .channelsRefused .. => "kids_feed.sources"
  | .channelsShapeless => "kids_feed.sources"
  | .homeUnavailable .. => "kids_feed.api"
  | .homeEmpty .. => "kids_feed.api"

def template : LogEntry → String
  | .posting .. => "youtube kids request url=%s"
  | .fragmentSkipped .. => "skipping undecodable renderer video_id=%s error=%s"
  | .sourceSkipped .. => "curated source skipped source=%s error=%s"
  | .primaryPassShort .. =>
      "curated primary pass short collected=%s floor=%s fallback_sources=%s"
  | .channelsUnreadable .. | .channelsRefused .. =>
      "curated channel file unreadable path=%s error=%s"
  | .channelsShapeless => "curated channel file has no channels list path=%s"
  | .homeUnavailable .. => "kids home feed unavailable status=%s error=%s"
  | .homeEmpty .. => "kids home feed empty, using curated channels count=%s"

def arguments : LogEntry → List LogArgument
  | .posting url => [.value (.text url)]
  | .fragmentSkipped videoId fault => [.value videoId, .fault fault]
  | .sourceSkipped source fault => [.value (.text source), .fault fault]
  | .primaryPassShort collected floor remaining =>
      [.value (.int collected), .value (.int floor), .value (.int remaining)]
  | .channelsUnreadable cause => [.channelsFile, .unreadable cause]
  | .channelsRefused reason => [.channelsFile, .fault (.defect (.system reason))]
  | .channelsShapeless => [.channelsFile]
  | .homeUnavailable problem =>
      [.value ((problem.status.map Document.int).getD .null), .fault (.provider problem)]
  | .homeEmpty channels => [.value (.int channels)]

end LogEntry

end KidsListing
