import KidsListing.Document.Basic
import KidsListing.Text.LooseInteger
import KidsListing.Video.Basic

/-!
# Videos from fields

A video is read from a mapping of its fields.  A field may stand under its
public camel-case name or under its plain one, and the public one wins when both
are there.  Values are read leniently: integers also from texts, truth values
and whole floating-point numbers in the range of 64-bit words, and truth values
also from words and from zero and one.  Every field is checked, and all problems
are reported at once.
-/

namespace KidsListing.Video

inductive Field where
  | type
  | url
  | title
  | thumbnailUrl
  | uploaderName
  | uploaderUrl
  | uploaderAvatarUrl
  | uploadedDateText
  | shortDescription
  | durationSeconds
  | viewCount
  | uploadedTimestamp
  | uploaderVerified
  | isShort
  deriving DecidableEq, Repr

namespace Field

def all : List Field := [
  .type, .url, .title, .thumbnailUrl, .uploaderName, .uploaderUrl, .uploaderAvatarUrl,
  .uploadedDateText, .shortDescription, .durationSeconds, .viewCount, .uploadedTimestamp,
  .uploaderVerified, .isShort]

def name : Field → String
  | .type => "type"
  | .url => "url"
  | .title => "title"
  | .thumbnailUrl => "thumbnail_url"
  | .uploaderName => "uploader_name"
  | .uploaderUrl => "uploader_url"
  | .uploaderAvatarUrl => "uploader_avatar_url"
  | .uploadedDateText => "uploaded_date_text"
  | .shortDescription => "short_description"
  | .durationSeconds => "duration_seconds"
  | .viewCount => "view_count"
  | .uploadedTimestamp => "uploaded_timestamp"
  | .uploaderVerified => "uploader_verified"
  | .isShort => "is_short"

def publicName : Field → String
  | .type => "type"
  | .url => "url"
  | .title => "title"
  | .thumbnailUrl => "thumbnailUrl"
  | .uploaderName => "uploaderName"
  | .uploaderUrl => "uploaderUrl"
  | .uploaderAvatarUrl => "uploaderAvatarUrl"
  | .uploadedDateText => "uploadedDateText"
  | .shortDescription => "shortDescription"
  | .durationSeconds => "durationSeconds"
  | .viewCount => "viewCount"
  | .uploadedTimestamp => "uploadedTimestamp"
  | .uploaderVerified => "uploaderVerified"
  | .isShort => "isShort"

end Field

/-- What is wrong with the value of a field. -/
inductive Flaw where
  | missing
  | notText
  | emptyText
  | notListed
  | notInteger
  | integerTooLarge
  | fractional
  | notFinite
  | integerType
  | notTruth
  | truthType
  deriving DecidableEq, Repr

def Flaw.label : Flaw → String
  | .missing => "missing"
  | .notText => "string_type"
  | .emptyText => "string_too_short"
  | .notListed => "literal_error"
  | .notInteger => "int_parsing"
  | .integerTooLarge => "int_parsing_size"
  | .fractional => "int_from_float"
  | .notFinite => "finite_number"
  | .integerType => "int_type"
  | .notTruth => "bool_parsing"
  | .truthType => "bool_type"

/-- A flaw and the key that it was found under. -/
structure Problem where
  location : String
  flaw : Flaw
  deriving DecidableEq, Repr

abbrev Reading (α : Type) := Document → Except Flaw α

namespace Reading

def plain : Reading String
  | .text value => .ok value
  | _ => .error .notText

def nonEmpty : Reading { s : String // s ≠ "" }
  | .text value => if h : value ≠ "" then .ok ⟨value, h⟩ else .error .emptyText
  | _ => .error .notText

def plainOrNull : Reading (Option String)
  | .text value => .ok (some value)
  | .null => .ok none
  | _ => .error .notText

/-- The kind of item, of which there is only one. -/
def kind : Reading Unit
  | .text value => if value = "stream" then .ok () else .error .notListed
  | _ => .error .notListed

/-- One more than the largest integer of a signed 64-bit word. -/
def wordLimit : Int := 9223372036854775808

/-- The integer that a floating-point number stands for, strictly between the
limits of a word on both sides. -/
def ofFloat (value : Binary64) : Except Flaw Int :=
  if value.isFinite then
    match value.toInt? with
    | some n => if -wordLimit < n ∧ n < wordLimit then .ok n else .error .integerTooLarge
    | none => .error .fractional
  else .error .notFinite

def integer : Reading Int
  | .int value => .ok value
  | .bool value => .ok (if value then 1 else 0)
  | .float value => ofFloat value
  | .text value =>
      match Text.looseInteger value.toList with
      | .ok n => .ok n
      | .error .malformed => .error .notInteger
      | .error .tooLong => .error .integerTooLarge
  | _ => .error .integerType

def trueWords : List String := ["1", "on", "t", "true", "y", "yes"]

def falseWords : List String := ["0", "off", "f", "false", "n", "no"]

def ofInteger (n : Int) : Except Flaw Bool :=
  if n = 1 then .ok true else if n = 0 then .ok false else .error .notTruth

/-- A number that is no integer of a word is not of the type of a truth value;
any other but zero and one is, but means nothing. -/
def truth : Reading Bool
  | .bool value => .ok value
  | .int value =>
      if -wordLimit ≤ value ∧ value < wordLimit then ofInteger value else .error .truthType
  | .float value =>
      match ofFloat value with
      | .ok n => ofInteger n
      | .error _ => .error .truthType
  | .text value =>
      let word := String.ofList (value.toList.map Char.toLower)
      if word ∈ trueWords then .ok true
      else if word ∈ falseWords then .ok false
      else .error .notTruth
  | _ => .error .truthType

end Reading

/-- The key that a field is given under, and its value. -/
def given? (entries : List (String × Document)) (field : Field) : Option (String × Document) :=
  match Document.lookup field.publicName entries with
  | some value => some (field.publicName, value)
  | none => (Document.lookup field.name entries).map (field.name, ·)

/-- The value of a field that may be left out. -/
def optional {α : Type} (entries : List (String × Document)) (field : Field)
    (reading : Reading α) (default : α) : Except Problem α :=
  match given? entries field with
  | none => .ok default
  | some (key, value) => (reading value).mapError (Problem.mk key)

def required {α : Type} (entries : List (String × Document)) (field : Field)
    (reading : Reading α) : Except Problem α :=
  match given? entries field with
  | none => .error ⟨field.publicName, .missing⟩
  | some (key, value) => (reading value).mapError (Problem.mk key)

/-- The video of a mapping, or else one of its problems. -/
def read (entries : List (String × Document)) : Except Problem Video := do
  optional entries .type Reading.kind ()
  let ⟨url, url_ne_empty⟩ ← required entries .url Reading.nonEmpty
  let title ← optional entries .title Reading.plain ""
  let thumbnailUrl ← optional entries .thumbnailUrl Reading.plain ""
  let uploaderName ← optional entries .uploaderName Reading.plain ""
  let uploaderUrl ← optional entries .uploaderUrl Reading.plainOrNull none
  let uploaderAvatarUrl ← optional entries .uploaderAvatarUrl Reading.plain ""
  let uploadedDateText ← optional entries .uploadedDateText Reading.plainOrNull (some "")
  let shortDescription ← optional entries .shortDescription Reading.plain ""
  let durationSeconds ← optional entries .durationSeconds Reading.integer (-1)
  let viewCount ← optional entries .viewCount Reading.integer (-1)
  let uploadedTimestamp ← optional entries .uploadedTimestamp Reading.integer (-1)
  let uploaderVerified ← optional entries .uploaderVerified Reading.truth false
  let isShort ← optional entries .isShort Reading.truth false
  return {
    url, title, thumbnailUrl, uploaderName, uploaderUrl, uploaderAvatarUrl, uploadedDateText
    shortDescription, durationSeconds, viewCount, uploadedTimestamp, uploaderVerified, isShort
    url_ne_empty }

def problem? (entries : List (String × Document)) (field : Field) : Option Problem :=
  match field with
  | .type => failure (optional entries field Reading.kind ())
  | .url => failure (required entries field Reading.nonEmpty)
  | .uploaderUrl | .uploadedDateText => failure (optional entries field Reading.plainOrNull none)
  | .durationSeconds | .viewCount | .uploadedTimestamp =>
      failure (optional entries field Reading.integer 0)
  | .uploaderVerified | .isShort => failure (optional entries field Reading.truth false)
  | .title | .thumbnailUrl | .uploaderName | .uploaderAvatarUrl | .shortDescription =>
      failure (optional entries field Reading.plain "")
where
  failure {α : Type} : Except Problem α → Option Problem
    | .ok _ => none
    | .error problem => some problem

/-- All problems of a mapping, by the keys that they were found under. -/
def problems (entries : List (String × Document)) : List Problem :=
  (Field.all.filterMap (problem? entries)).mergeSort fun p q => p.location ≤ q.location

/-- The video of a mapping, or every problem that it has. -/
def ofFields (entries : List (String × Document)) : Except (List Problem) Video :=
  match read entries with
  | .ok video => .ok video
  | .error _ => .error (problems entries)

end KidsListing.Video

namespace KidsListing.SearchPage

open KidsListing.Video (Flaw)

/-- The value of a field under its public name, or else under its plain one. -/
def entry {α : Type} (entries : List (String × Document)) (publicName name : String)
    (reading : Video.Reading α) (default : α) : Except Flaw α :=
  match (Document.lookup publicName entries).or (Document.lookup name entries) with
  | none => .ok default
  | some value => reading value

def video : Video.Reading Video
  | .object fields =>
      match Video.read fields with
      | .ok v => .ok v
      | .error problem => .error problem.flaw
  | _ => .error .notListed

def videos : Video.Reading (List Video)
  | .list elements => elements.mapM video
  | _ => .error .notListed

/-- A page from its fields, or the first flaw found. -/
def ofDocument : Video.Reading SearchPage
  | .object entries => do
      let items ← entry entries "items" "items" videos []
      let nextPageToken ← entry entries "nextPageToken" "next_page_token"
        Video.Reading.plainOrNull none
      let suggestion ← entry entries "suggestion" "suggestion" Video.Reading.plainOrNull none
      let corrected ← entry entries "corrected" "corrected" Video.Reading.truth false
      return { items, nextPageToken, suggestion, corrected }
  | _ => .error .notListed

end KidsListing.SearchPage
