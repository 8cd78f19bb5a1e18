import KidsListing.Document.Reader
import KidsListing.Document.Spelling
import KidsListing.Run
import KidsListing.Text.Utf8

/-!
# Curated channels

The ordered list of channels that the service collects videos from.  A channel
file may hold another list than the built-in one: an object whose `channels` are
ids, or objects with a `channel_id`.  Ids are trimmed, blank ones are dropped
and of equal ones the first stays; the built-in list stands in for a file that
is missing, unreadable or without a usable id.
-/

namespace KidsListing.Channels

def builtIn : List String := [
  "UCbCmjCuTUZos6Inko4u57UQ",
  "UCoookXUzPciGrEZEXmh4Jjg",
  "UCLsooMJoIpl_7ux2jvdPB-Q",
  "UC5PYHgAzJ1wLEidB58SK6Xw",
  "UCcdwLMPsaU2ezNSJU1nFoBQ",
  "UCXVCgDuD_QCkI7gTKU7-tpg",
  "UCk8GzjMOrta8yxDcKfylJYw"]

/-- What stands at the place of a channel file.  The system may not even tell whether there
is something, or it may refuse to read what there is. -/
inductive Source where
  | absent
  | unknown (reason : String)
  | refused (reason : String)
  | directory
  | file (octets : List UInt8)

/-- The id of an entry, empty when it has none. -/
def entryId : RawDocument → RawText
  | .text id => id.trimmed
  | .object entries =>
      let id := (Document.lookup (.ofString "channel_id") entries).getD .null
      if id.isBlank then [] else id.asText.trimmed
  | _ => []

/-- The members of a list at their first occurrence. -/
def firstOccurrences (seen : List RawText) : List RawText → List RawText
  | [] => []
  | id :: rest =>
      if id ∈ seen then firstOccurrences seen rest
      else id :: firstOccurrences (id :: seen) rest

def ids (entries : List RawDocument) : List RawText :=
  firstOccurrences [] ((entries.map entryId).filter fun id => id ≠ [])

/-- The entries under `channels`, when they are a list. -/
def entries? : RawDocument → Option (List RawDocument)
  | .object fields =>
      match Document.lookup (.ofString "channels") fields with
      | some (.list entries) => some entries
      | _ => none
  | _ => none

/-- The built-in channels as a file would give them. -/
def fallback : List RawText :=
  builtIn.map .ofString

def orFallback (channels : List RawText) : List RawText :=
  if channels = [] then fallback else channels

def ofDocument (document : RawDocument) : Run (List RawText) :=
  match entries? document with
  | some entries => pure (orFallback (ids entries))
  | none => do
      Run.log .channelsShapeless
      return fallback

def unreadable (warning : LogEntry) : Run (List RawText) := do
  Run.log warning
  return fallback

/-- The channels of a file.  Octets that are not UTF-8 and numerals that are too
long are not taken for an unreadable file: they make loading fail, and so does a place of
which the system does not tell whether there is a file. -/
def load : Source → Run (List RawText)
  | .absent => pure fallback
  | .unknown reason => .fail (.defect (.system reason))
  | .refused reason => unreadable (.channelsRefused reason)
  | .directory => unreadable (.channelsUnreadable .directory)
  | .file octets =>
      match Text.Utf8.decode? octets with
      | none => .fail (.defect .notUtf8)
      | some text =>
          match Document.readRaw text with
          | .ok document => ofDocument document
          | .error .malformed => unreadable (.channelsUnreadable .malformed)
          | .error .numeralTooLong => .fail (.defect .numeralTooLong)

end KidsListing.Channels
