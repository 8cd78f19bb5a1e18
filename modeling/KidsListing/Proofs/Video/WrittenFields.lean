import KidsListing.Proofs.Document.Within
import KidsListing.Proofs.Video.Keys

/-!
# Reading back the fields of a video

A video is written as a mapping of its fields, each under one of its two names; fields that
have their initial value may be left out, and entries of other keys may be put in.  Reading
such a mapping gives the video again, in whatever form its fields were given first.  So it
is for the fields that decoding fills in by their plain names, and for the public form in
which videos and pages of them are served.
-/

namespace KidsListing

namespace Video

open KidsListing.Document (lookup)

/-! ## Keys of fields -/

/-- The field that a key belongs to. -/
def fieldOf? (key : String) : Option Field :=
  Field.all.find? fun field => field.publicName = key ∨ field.name = key

theorem fieldOf?_publicName (field : Field) : fieldOf? field.publicName = some field := by
  cases field <;> decide

theorem fieldOf?_name (field : Field) : fieldOf? field.name = some field := by
  cases field <;> decide

/-- Each field has one of its two names for its key. -/
def Spells (key : Field → String) : Prop :=
  ∀ field, key field = field.publicName ∨ key field = field.name

theorem Spells.fieldOf? {key : Field → String} (h : Spells key) (field : Field) :
    fieldOf? (key field) = some field := by
  rcases h field with hkey | hkey
  · rw [hkey, fieldOf?_publicName]
  · rw [hkey, fieldOf?_name]

/-- A key that is no name of a field. -/
def Unknown (key : String) : Prop :=
  ∀ field : Field, key ≠ field.publicName ∧ key ≠ field.name

theorem Unknown.fieldOf? {key : String} (h : Unknown key) : fieldOf? key = none := by
  rw [Video.fieldOf?, List.find?_eq_none]
  intro field _
  obtain ⟨hpublic, hplain⟩ := h field
  simp [hpublic.symm, hplain.symm]

/-! ## Writing -/

/-- The entries of some fields of a video under chosen keys. -/
def entriesOf (v : Video) (fields : List Field) (key : Field → String) :
    List (String × Document) :=
  fields.map fun field => (key field, v.value field)

theorem toDocument_eq (v : Video) :
    v.toDocument = .object (v.entriesOf Field.all Field.publicName) :=
  rfl

/-- The value that a field has when it is left out. -/
def Field.initial? : Field → Option Document
  | .url => none
  | .type => some (.text "stream")
  | .title | .thumbnailUrl | .uploaderName | .uploaderAvatarUrl | .uploadedDateText
  | .shortDescription => some (.text "")
  | .uploaderUrl => some .null
  | .durationSeconds | .viewCount | .uploadedTimestamp => some (.int (-1))
  | .uploaderVerified | .isShort => some (.bool false)

/-- The fields of a video in any order and under either name, among entries of unknown
keys.  Only fields with their initial values may be left out. -/
def Writes (v : Video) (entries : List (String × Document)) : Prop :=
  ∃ fields key others, Spells key ∧
    (∀ field ∉ fields, field.initial? = some (v.value field)) ∧
    (∀ entry ∈ others, Unknown entry.1) ∧ entries.Perm (v.entriesOf fields key ++ others)

/-! ## Looking fields up -/

/-- Each field of a video is given with its value, or has it without being given. -/
def Tells (entries : List (String × Document)) (v : Video) : Prop :=
  ∀ field, (∃ key, given? entries field = some (key, v.value field)) ∨
    (given? entries field = none ∧ field.initial? = some (v.value field))

section Lookup

variable {v : Video} {fields : List Field} {key : Field → String}
  {others entries : List (String × Document)}
  (hspells : Spells key) (hothers : ∀ entry ∈ others, Unknown entry.1)
  (hperm : entries.Perm (v.entriesOf fields key ++ others))

include hspells hothers hperm

theorem eq_of_mem_entries {name : String} {x : Document} (hmem : (name, x) ∈ entries)
    {field : Field} (hname : fieldOf? name = some field) :
    field ∈ fields ∧ name = key field ∧ x = v.value field := by
  rcases List.mem_append.1 (hperm.mem_iff.1 hmem) with hmem | hmem
  · obtain ⟨other, hother, heq⟩ := List.mem_map.1 hmem
    cases heq
    rw [hspells.fieldOf?] at hname
    cases hname
    exact ⟨hother, rfl, rfl⟩
  · rw [(hothers _ hmem).fieldOf?] at hname
    cases hname

/-- A field is found under its own key and under no other name of it. -/
theorem lookup_field {name : String} {field : Field} (hname : fieldOf? name = some field) :
    lookup name entries =
      if field ∈ fields ∧ name = key field then some (v.value field) else none := by
  split
  · rename_i hwritten
    obtain ⟨hfield, rfl⟩ := hwritten
    have hmem : (key field, v.value field) ∈ entries :=
      hperm.mem_iff.2 (List.mem_append_left _ (List.mem_map.2 ⟨field, hfield, rfl⟩))
    cases hlookup : lookup (key field) entries with
    | none => exact absurd (List.mem_map.2 ⟨_, hmem, rfl⟩) (Document.lookup_eq_none_iff.1 hlookup)
    | some x =>
        obtain ⟨-, -, rfl⟩ :=
          eq_of_mem_entries hspells hothers hperm (Document.mem_of_lookup hlookup) hname
        rfl
  · rename_i hwritten
    rw [Document.lookup_eq_none_iff, List.mem_map]
    rintro ⟨⟨_, x⟩, hmem, rfl⟩
    obtain ⟨hfield, hkey, -⟩ := eq_of_mem_entries hspells hothers hperm hmem hname
    exact hwritten ⟨hfield, hkey⟩

theorem given?_of_mem {field : Field} (hfield : field ∈ fields) :
    given? entries field = some (key field, v.value field) := by
  have hpublic := lookup_field hspells hothers hperm (fieldOf?_publicName field)
  have hplain := lookup_field hspells hothers hperm (fieldOf?_name field)
  -- The two names of a field may be the same, and then the first look-up finds it.
  by_cases hkey : field.publicName = key field
  · rw [given?, hpublic, if_pos ⟨hfield, hkey⟩, hkey]
  · have hname : field.name = key field := ((hspells field).resolve_left (Ne.symm hkey)).symm
    rw [given?, hpublic, if_neg fun h => hkey h.2, hplain, if_pos ⟨hfield, hname⟩, hname]
    rfl

theorem given?_of_not_mem {field : Field} (hfield : field ∉ fields) :
    given? entries field = none := by
  rw [given?, lookup_field hspells hothers hperm (fieldOf?_publicName field),
    if_neg fun h => hfield h.1, lookup_field hspells hothers hperm (fieldOf?_name field),
    if_neg fun h => hfield h.1]
  rfl

end Lookup

theorem tells_of_writes {v : Video} {entries : List (String × Document)}
    (h : v.Writes entries) : Tells entries v := by
  obtain ⟨fields, key, others, hspells, hinitial, hothers, hperm⟩ := h
  intro field
  by_cases hfield : field ∈ fields
  · exact .inl ⟨key field, given?_of_mem hspells hothers hperm hfield⟩
  · exact .inr ⟨given?_of_not_mem hspells hothers hperm hfield, hinitial field hfield⟩

/-! ## Reading -/

theorem plainOrNull_nullable (text : Option String) :
    Reading.plainOrNull (nullable text) = .ok text := by
  cases text <;> rfl

section Read

variable {entries : List (String × Document)} {v : Video}

/-- A field is read as what its value is read as, and when it is left out so is its initial
value, which reads as the default. -/
theorem optional_of_tells {α : Type} (h : Tells entries v) {field : Field}
    {reading : Reading α} {default x : α} {initial : Document}
    (hvalue : reading (v.value field) = .ok x) (hinitial : field.initial? = some initial)
    (hdefault : reading initial = .ok default) :
    optional entries field reading default = .ok x := by
  rcases h field with ⟨key, hgiven⟩ | ⟨hgiven, hleft⟩
  · rw [optional, hgiven]
    simp only [hvalue]
    rfl
  · obtain rfl := Option.some.inj (hinitial.symm.trans hleft)
    rw [optional, hgiven, Except.ok.inj (hdefault.symm.trans hvalue)]

theorem required_url_of_tells (h : Tells entries v) :
    required entries .url Reading.nonEmpty = .ok ⟨v.url, v.url_ne_empty⟩ := by
  rcases h .url with ⟨key, hgiven⟩ | ⟨-, hleft⟩
  · have hurl : Reading.nonEmpty (v.value .url) = .ok ⟨v.url, v.url_ne_empty⟩ :=
      dif_pos v.url_ne_empty
    rw [required, hgiven]
    simp only [hurl]
    rfl
  · cases hleft

/-- Every field is read as the video has it. -/
theorem read_of_tells (h : Tells entries v) : read entries = .ok v := by
  have htype : optional entries .type Reading.kind () = .ok () :=
    optional_of_tells h rfl rfl rfl
  have htitle : optional entries .title Reading.plain "" = .ok v.title :=
    optional_of_tells h rfl rfl rfl
  have hthumbnail : optional entries .thumbnailUrl Reading.plain "" = .ok v.thumbnailUrl :=
    optional_of_tells h rfl rfl rfl
  have hname : optional entries .uploaderName Reading.plain "" = .ok v.uploaderName :=
    optional_of_tells h rfl rfl rfl
  have huploader : optional entries .uploaderUrl Reading.plainOrNull none = .ok v.uploaderUrl :=
    optional_of_tells h (plainOrNull_nullable _) rfl rfl
  have havatar : optional entries .uploaderAvatarUrl Reading.plain "" =
      .ok v.uploaderAvatarUrl :=
    optional_of_tells h rfl rfl rfl
  have hdate : optional entries .uploadedDateText Reading.plainOrNull (some "") =
      .ok v.uploadedDateText :=
    optional_of_tells h (plainOrNull_nullable _) rfl rfl
  have hdescription : optional entries .shortDescription Reading.plain "" =
      .ok v.shortDescription :=
    optional_of_tells h rfl rfl rfl
  have hduration : optional entries .durationSeconds Reading.integer (-1) =
      .ok v.durationSeconds :=
    optional_of_tells h rfl rfl rfl
  have hviews : optional entries .viewCount Reading.integer (-1) = .ok v.viewCount :=
    optional_of_tells h rfl rfl rfl
  have htimestamp : optional entries .uploadedTimestamp Reading.integer (-1) =
      .ok v.uploadedTimestamp :=
    optional_of_tells h rfl rfl rfl
  have hverified : optional entries .uploaderVerified Reading.truth false =
      .ok v.uploaderVerified :=
    optional_of_tells h rfl rfl rfl
  have hshort : optional entries .isShort Reading.truth false = .ok v.isShort :=
    optional_of_tells h rfl rfl rfl
  rw [read, htype, required_url_of_tells h, htitle, hthumbnail, hname, huploader, havatar, hdate,
    hdescription, hduration, hviews, htimestamp, hverified, hshort]
  rfl

theorem ofFields_of_writes (h : v.Writes entries) : ofFields entries = .ok v := by
  rw [ofFields, read_of_tells (tells_of_writes h)]

end Read

/-! ## What is written -/

theorem Field.mem_all (field : Field) : field ∈ Field.all := by
  cases field <;> decide

/-- All fields may be written under any of their names, in any order, among other entries. -/
theorem writes_of_perm {v : Video} {key : Field → String}
    {others entries : List (String × Document)} (hspells : Spells key)
    (hothers : ∀ entry ∈ others, Unknown entry.1)
    (hperm : entries.Perm (v.entriesOf Field.all key ++ others)) : v.Writes entries :=
  ⟨Field.all, key, others, hspells, fun field hfield => absurd field.mem_all hfield, hothers,
    hperm⟩

theorem writes_public (v : Video) : v.Writes (v.entriesOf Field.all Field.publicName) := by
  have hnone : ∀ entry ∈ ([] : List (String × Document)), Unknown entry.1 := nofun
  apply writes_of_perm (fun _ => .inl rfl) hnone
  rw [List.append_nil]

/-- The fields that decoding fills in. -/
def decodedFields : List Field := [
  .url, .title, .thumbnailUrl, .uploaderName, .uploaderUrl, .uploaderAvatarUrl,
  .uploadedDateText, .shortDescription, .durationSeconds, .viewCount]

/-- Decoding leaves the other fields as they are initially. -/
theorem writes_decoded {d : Document} {v : Video}
    (h : Fragment.decode { content := d } = .item v) :
    v.Writes (v.entriesOf decodedFields Field.name) := by
  have hread := Fragment.readOff_of_decode h
  refine ⟨decodedFields, Field.name, [], fun _ => .inr rfl, ?_, nofun, ?_⟩
  · intro field hfield
    cases field with
    | type => rfl
    | uploadedTimestamp => exact congrArg (some ∘ Document.int) hread.uploadedTimestamp.symm
    | uploaderVerified => exact congrArg (some ∘ Document.bool) hread.uploaderVerified.symm
    | isShort => exact congrArg (some ∘ Document.bool) hread.isShort.symm
    | _ => exact absurd (by decide) hfield
  · rw [List.append_nil]

end Video

/-! ## Pages -/

namespace SearchPage

open KidsListing.Video (Field Spells Unknown decodedFields ofFields)

theorem video_toDocument (v : Video) : video v.toDocument = .ok v := by
  have hread := Video.read_of_tells (Video.tells_of_writes v.writes_public)
  rw [Video.toDocument_eq, video, hread]

theorem videos_map_toDocument (items : List Video) :
    videos (.list (items.map Video.toDocument)) = .ok items := by
  change (items.map Video.toDocument).mapM video = .ok items
  induction items with
  | nil => rfl
  | cons v rest ih =>
      rw [List.map_cons, List.mapM_cons, video_toDocument, ih]
      rfl

/-- The public form of a page is read as the page. -/
theorem ofDocument_toDocument (page : SearchPage) : ofDocument page.toDocument = .ok page := by
  let entries : List (String × Document) := [
    ("items", .list (page.items.map Video.toDocument)),
    ("nextPageToken", Video.nullable page.nextPageToken),
    ("suggestion", Video.nullable page.suggestion),
    ("corrected", .bool page.corrected)]
  have hitems : entry entries "items" "items" videos [] = .ok page.items :=
    videos_map_toDocument page.items
  have htoken : entry entries "nextPageToken" "next_page_token" Video.Reading.plainOrNull none =
      .ok page.nextPageToken :=
    Video.plainOrNull_nullable _
  have hsuggestion : entry entries "suggestion" "suggestion" Video.Reading.plainOrNull none =
      .ok page.suggestion :=
    Video.plainOrNull_nullable _
  have hcorrected : entry entries "corrected" "corrected" Video.Reading.truth false =
      .ok page.corrected := rfl
  rw [toDocument, ofDocument, hitems, htoken, hsuggestion, hcorrected]
  rfl

end SearchPage

namespace Video

/-- A video that was read from fields in any form is written as its fields are, and is read
from them again: under any of their names, in any order and among entries of unknown keys.
What decoding fills in by plain names is read as the video that is decoded, and what is
served of a video, of a list of videos and of a page is read as just that. -/
theorem read_of_written :
    (∀ given v, ofFields given = .ok v →
      v.toDocument = .object (v.entriesOf Field.all Field.publicName) ∧
        ∀ key others entries, Spells key → (∀ entry ∈ others, Unknown entry.1) →
          entries.Perm (v.entriesOf Field.all key ++ others) → ofFields entries = .ok v) ∧
      (∀ d v, Fragment.decode { content := d } = .item v →
        ofFields (v.entriesOf decodedFields Field.name) = .ok v) ∧
      (∀ v : Video, SearchPage.video v.toDocument = .ok v) ∧
      (∀ items : List Video,
        SearchPage.videos (.list (items.map toDocument)) = .ok items) ∧
      ∀ page : SearchPage, SearchPage.ofDocument page.toDocument = .ok page := by
  refine ⟨?_, ?_, SearchPage.video_toDocument, SearchPage.videos_map_toDocument,
    SearchPage.ofDocument_toDocument⟩
  · intro _ v _
    refine ⟨v.toDocument_eq, ?_⟩
    intro key others entries hspells hothers hperm
    exact ofFields_of_writes (writes_of_perm hspells hothers hperm)
  · intro d v hdecode
    exact ofFields_of_writes (writes_decoded hdecode)

/-- Fields in forms that change as they are read, and an entry of an unknown key. -/
def looselyGiven : List (String × Document) := [
  ("is_short", .text "Yes"), ("url", .text "/watch?v=a"), ("duration_seconds", .text " 61 "),
  ("viewCount", .bool true), ("uploaded_date_text", .null), ("rating", .int 5)]

def looselyGivenVideo : Video where
  url := "/watch?v=a"
  uploadedDateText := none
  durationSeconds := 61
  viewCount := 1
  isShort := true
  url_ne_empty := by decide

/-- The plain names of two fields, and the public names of all others. -/
def mixedKey : Field → String
  | .durationSeconds => "duration_seconds"
  | .isShort => "is_short"
  | field => field.publicName

theorem spells_mixedKey : Spells mixedKey := by
  intro field
  cases field <;> decide

theorem unknown_rating : Unknown "rating" := by
  intro field
  cases field <;> decide

theorem read_of_written_mixed :
    ofFields looselyGiven = .ok looselyGivenVideo ∧
      Spells mixedKey ∧ Unknown "rating" ∧
      ofFields (looselyGivenVideo.entriesOf Field.all mixedKey ++
          [("rating", Document.int 5)]).reverse =
        .ok looselyGivenVideo := by
  have hgiven : ofFields looselyGiven = .ok looselyGivenVideo := by
    rfl
  refine ⟨hgiven, spells_mixedKey, unknown_rating, ?_⟩
  have hothers : ∀ entry ∈ [("rating", Document.int 5)], Unknown entry.1 := by
    simpa using unknown_rating
  exact (read_of_written.1 looselyGiven looselyGivenVideo hgiven).2 mixedKey _ _
    spells_mixedKey hothers (List.reverse_perm _)

end Video

end KidsListing
