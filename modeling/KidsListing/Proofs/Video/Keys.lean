import KidsListing.Proofs.Document.Moderate
import KidsListing.Video.Fields
import KidsListing.Video.Fragment

/-!
# The keys behind a video

Each field of a decoded video is read off the value under one key of its
fragment, and a moderate document always decodes or has no id.  Whatever is done
to the entries of a fragment, only the fields of the keys concerned change.
-/

namespace KidsListing

namespace Document

/-- The id of a document with something under `videoId` that can be one: a text
that is not empty, or a number. -/
def usableId? : Document → Option String
  | .object entries =>
      match lookup "videoId" entries with
      | some (.text id) => if id = "" then none else some id
      | some (.int id) => some (toString id)
      | some (.float id) => some id.text
      | _ => none
  | _ => none

theorem usableId?_ne_empty {d : Document} {id : String} (h : d.usableId? = some id) : id ≠ "" := by
  unfold usableId? at h
  split at h
  · split at h
    · split at h
      · cases h
      · rw [← Option.some.inj h]
        assumption
    · rw [← Option.some.inj h]
      exact Text.toString_ne_empty _
    · rw [← Option.some.inj h]
      exact Binary64.text_ne_empty _
    · cases h
  · cases h

/-- The text under `videoId` is the usable id, and empty when there is none. -/
theorem Written.plainText_videoId {d : Document} (h : d.Written) :
    (d.step "videoId").plainText = .ok (d.usableId?.getD "") := by
  cases d with
  | object entries =>
      simp only [Document.step, usableId?]
      cases hlookup : lookup "videoId" entries with
      | none => rfl
      | some value =>
          have hvalue : value.Written := written_object.1 h _ (mem_of_lookup hlookup)
          cases value with
          | text id =>
              by_cases hid : id = "" <;> simp [Document.plainText, hid]
          | int id =>
              simp only [Option.getD_some, Document.plainText, if_pos (written_int.1 hvalue)]
          | _ => rfl
  | _ => rfl

end Document

namespace Video

/-- The key of a fragment that a field is read from; the other fields have their
defaults. -/
def Field.key? : Field → Option String
  | .url => some "videoId"
  | .title => some "title"
  | .thumbnailUrl => some "thumbnail"
  | .uploaderName | .uploaderUrl => some "longBylineText"
  | .uploaderAvatarUrl => some "channelThumbnail"
  | .uploadedDateText => some "publishedTimeText"
  | .durationSeconds => some "lengthText"
  | .viewCount => some "viewCountText"
  | .type | .shortDescription | .uploadedTimestamp | .uploaderVerified | .isShort => none

/-- The value of a field in the public form of a video. -/
def value (v : Video) (field : Field) : Document :=
  v.toDocument.step field.publicName

end Video

namespace Fragment

/-- A value is got in some way from what stands under a key. -/
def Gives {α : Type} (d : Document) (key : String) (get : Document → Except Fault α) (a : α) :
    Prop :=
  get (d.step key) = .ok a

theorem Gives.unique {α : Type} {d e : Document} {key : String}
    {get : Document → Except Fault α} {a b : α} (ha : Gives d key get a) (hb : Gives e key get b)
    (h : d.step key = e.step key) : a = b := by
  have hget : get (d.step key) = .ok b := by
    rw [h]
    exact hb
  exact Except.ok.inj (ha.symm.trans hget)

/-- A video that is read off a document, each field from the value under one
key. -/
structure ReadOff (d : Document) (v : Video) : Prop where
  url : Gives d "videoId" (fun node => node.plainText.map watchUrl) v.url
  title : Gives d "title" Document.label v.title
  thumbnailUrl : Gives d "thumbnail" Document.sharpestImage v.thumbnailUrl
  uploaderName : Gives d "longBylineText" Document.label v.uploaderName
  uploaderUrl : Gives d "longBylineText"
    (fun node => node.linkedChannel.map (Option.map channelUrl)) v.uploaderUrl
  uploaderAvatarUrl : Gives d "channelThumbnail" Document.firstImage v.uploaderAvatarUrl
  uploadedDateText : Gives d "publishedTimeText" (fun node => node.label.map some)
    v.uploadedDateText
  durationSeconds : Gives d "lengthText"
    (fun node => node.label.map fun text => counted (Duration.parse? text.toList))
    v.durationSeconds
  viewCount : Gives d "viewCountText"
    (fun node => node.label.bind fun text => (ViewCount.parse text.toList).map counted)
    v.viewCount
  shortDescription : v.shortDescription = ""
  uploadedTimestamp : v.uploadedTimestamp = -1
  uploaderVerified : v.uploaderVerified = false
  isShort : v.isShort = false

/-- A field is the same in two videos that were read off documents with the same
value under its key. -/
theorem ReadOff.value_eq {d e : Document} {v w : Video} (hv : ReadOff d v) (hw : ReadOff e w)
    (field : Video.Field) (h : ∀ key, field.key? = some key → d.step key = e.step key) :
    v.value field = w.value field := by
  cases field with
  | type => rfl
  | url => exact congrArg Document.text (hv.url.unique hw.url (h _ rfl))
  | title => exact congrArg Document.text (hv.title.unique hw.title (h _ rfl))
  | thumbnailUrl =>
      exact congrArg Document.text (hv.thumbnailUrl.unique hw.thumbnailUrl (h _ rfl))
  | uploaderName =>
      exact congrArg Document.text (hv.uploaderName.unique hw.uploaderName (h _ rfl))
  | uploaderUrl =>
      exact congrArg Video.nullable (hv.uploaderUrl.unique hw.uploaderUrl (h _ rfl))
  | uploaderAvatarUrl =>
      exact congrArg Document.text
        (hv.uploaderAvatarUrl.unique hw.uploaderAvatarUrl (h _ rfl))
  | uploadedDateText =>
      exact congrArg Video.nullable
        (hv.uploadedDateText.unique hw.uploadedDateText (h _ rfl))
  | shortDescription =>
      exact congrArg Document.text (hv.shortDescription.trans hw.shortDescription.symm)
  | durationSeconds =>
      exact congrArg Document.int (hv.durationSeconds.unique hw.durationSeconds (h _ rfl))
  | viewCount => exact congrArg Document.int (hv.viewCount.unique hw.viewCount (h _ rfl))
  | uploadedTimestamp =>
      exact congrArg Document.int (hv.uploadedTimestamp.trans hw.uploadedTimestamp.symm)
  | uploaderVerified =>
      exact congrArg Document.bool (hv.uploaderVerified.trans hw.uploaderVerified.symm)
  | isShort => exact congrArg Document.bool (hv.isShort.trans hw.isShort.symm)

/-! ## Decoding any document -/

theorem ok_bind {α β : Type} (a : α) (next : α → Except Fault β) :
    (Except.ok a >>= next) = next a :=
  rfl

theorem bind_eq_ok {α β : Type} {first : Except Fault α} {next : α → Except Fault β} {b : β}
    (h : first >>= next = .ok b) : ∃ a, first = .ok a ∧ next a = .ok b := by
  cases first with
  | error fault => cases h
  | ok a => exact ⟨a, rfl, h⟩

theorem map_eq_ok {α β : Type} {f : α → β} {taken : Except Fault α} {b : β}
    (h : taken.map f = .ok b) : ∃ a, taken = .ok a ∧ f a = b := by
  cases taken with
  | error fault => cases h
  | ok a => exact ⟨a, rfl, Except.ok.inj h⟩

theorem read_undamaged (d : Document) (key : String) :
    read { content := d } key = .ok (d.step key) := by
  cases d <;> rfl

/-- What decoding comes to when it does not fail. -/
theorem video?_eq_ok {d : Document} {result : Option Video}
    (h : video? { content := d } = .ok result) :
    ∃ id, (d.step "videoId").plainText = .ok id ∧
      ((id = "" ∧ result = none) ∨ (id ≠ "" ∧ ∃ v, result = some v ∧ ReadOff d v)) := by
  simp only [video?, read_undamaged, ok_bind] at h
  obtain ⟨id, hid, h⟩ := bind_eq_ok h
  refine ⟨id, hid, ?_⟩
  by_cases hempty : id = ""
  · rw [if_pos hempty] at h
    exact .inl ⟨hempty, (Except.ok.inj h).symm⟩
  · rw [if_neg hempty] at h
    obtain ⟨channel, hchannel, h⟩ := bind_eq_ok h
    obtain ⟨title, htitle, h⟩ := bind_eq_ok h
    obtain ⟨thumbnail, hthumbnail, h⟩ := bind_eq_ok h
    obtain ⟨name, hname, h⟩ := bind_eq_ok h
    obtain ⟨avatar, havatar, h⟩ := bind_eq_ok h
    obtain ⟨date, hdate, h⟩ := bind_eq_ok h
    obtain ⟨duration, hduration, h⟩ := bind_eq_ok h
    obtain ⟨views, hviews, h⟩ := bind_eq_ok h
    obtain ⟨count, hcount, h⟩ := bind_eq_ok h
    refine .inr ⟨hempty, _, (Except.ok.inj h).symm, ?_⟩
    exact {
      url := by simp only [Gives, hid]; rfl
      title := htitle
      thumbnailUrl := hthumbnail
      uploaderName := hname
      uploaderUrl := by simp only [Gives, hchannel]; rfl
      uploaderAvatarUrl := havatar
      uploadedDateText := by simp only [Gives, hdate]; rfl
      durationSeconds := by simp only [Gives, hduration]; rfl
      viewCount := by simp only [Gives, hviews, Except.bind, hcount]; rfl
      shortDescription := rfl
      uploadedTimestamp := rfl
      uploaderVerified := rfl
      isShort := rfl }

theorem video?_of_decode_eq_item {f : Fragment} {v : Video} (h : f.decode = .item v) :
    f.video? = .ok (some v) := by
  unfold decode at h
  split at h
  · rename_i hvideo
    cases h
    exact hvideo
  · cases h
  · cases h

theorem readOff_of_decode {d : Document} {v : Video}
    (h : decode { content := d } = .item v) : ReadOff d v := by
  obtain ⟨id, -, hresult⟩ := video?_eq_ok (video?_of_decode_eq_item h)
  rcases hresult with ⟨-, hnone⟩ | ⟨-, w, hsome, hread⟩
  · cases hnone
  · rw [Option.some.inj hsome]
    exact hread

/-! ## Written documents -/

/-- Without a usable id there is no video. -/
theorem decode_of_written_of_usableId?_eq_none {d : Document} (h : d.Written)
    (hid : d.usableId? = none) : decode { content := d } = .absent := by
  have hvideo : video? { content := d } = .ok none := by
    simp only [video?, read_undamaged, ok_bind, h.plainText_videoId, hid]
    rfl
  rw [decode, hvideo]

/-- With a usable id everything is sure to be read but the view count. -/
theorem decode_of_usableId? {d : Document} (h : d.Written) {id : String}
    (hid : d.usableId? = some id) :
    ∃ views, (d.step "viewCountText").label = .ok views ∧
      match ViewCount.parse views.toList with
      | .ok _ => ∃ v, decode { content := d } = .item v
      | .error fault => decode { content := d } = .failed fault := by
  obtain ⟨channel, hchannel⟩ := (h.step "longBylineText").linkedChannel
  obtain ⟨title, htitle⟩ := (h.step "title").label
  obtain ⟨thumbnail, hthumbnail⟩ :=
    ((h.step "thumbnail").walk ["thumbnails", .index (-1), "url"]).plainText
  obtain ⟨name, hname⟩ := (h.step "longBylineText").label
  obtain ⟨avatar, havatar⟩ :=
    ((h.step "channelThumbnail").walk ["thumbnails", .index 0, "url"]).plainText
  obtain ⟨date, hdate⟩ := (h.step "publishedTimeText").label
  obtain ⟨duration, hduration⟩ := (h.step "lengthText").label
  obtain ⟨views, hviews⟩ := (h.step "viewCountText").label
  have hne : id ≠ "" := Document.usableId?_ne_empty hid
  refine ⟨views, hviews, ?_⟩
  -- Every step up to the last has its value now; only the count may still be refused.
  simp only [decode, video?, read_undamaged, ok_bind, h.plainText_videoId, hid,
    Option.getD_some, if_neg hne, hchannel, htitle, Document.sharpestImage, hthumbnail, hname,
    Document.firstImage, havatar, hdate, hduration, hviews]
  cases ViewCount.parse views.toList with
  | ok count => exact ⟨_, rfl⟩
  | error fault => rfl

/-! ## Moderate documents -/

theorem decode_of_usableId?_eq_none {d : Document} (h : d.Moderate) (hid : d.usableId? = none) :
    decode { content := d } = .absent :=
  decode_of_written_of_usableId?_eq_none h.written hid

theorem decode_of_usableId?_eq_some {d : Document} (h : d.Moderate) {id : String}
    (hid : d.usableId? = some id) :
    ∃ v, decode { content := d } = .item v ∧ v.url = watchUrl id := by
  obtain ⟨views, hviews, hdecode⟩ := decode_of_usableId? h.written hid
  obtain ⟨taken, htaken, count, hcount⟩ := (h.step "viewCountText").label
  obtain rfl := Except.ok.inj (hviews.symm.trans htaken)
  rw [hcount] at hdecode
  obtain ⟨v, hdecode⟩ := hdecode
  refine ⟨v, hdecode, ?_⟩
  have hurl := (readOff_of_decode hdecode).url
  simp only [Gives, h.written.plainText_videoId, hid] at hurl
  exact (Except.ok.inj hurl).symm

/-- A moderate document never fails to decode.  It is no video exactly when it
has no usable id, and otherwise the video of that id is read off the document.
Between this document and any other, a field can differ only when the values
under its key do. -/
theorem decode_moderate_by_keys {d : Document} (hd : d.Moderate) :
    (∀ fault, decode { content := d } ≠ .failed fault) ∧
      (decode { content := d } = .absent ↔ d.usableId? = none) ∧
      (∀ id, d.usableId? = some id →
        ∃ v, decode { content := d } = .item v ∧ v.url = "/watch?v=" ++ id ∧ ReadOff d v) ∧
      ∀ (e : Document) (v w : Video), decode { content := d } = .item v →
        decode { content := e } = .item w →
        ∀ field : Video.Field, (∀ key, field.key? = some key → d.step key = e.step key) →
          v.value field = w.value field := by
  have hitem : ∀ id, d.usableId? = some id →
      ∃ v, decode { content := d } = .item v ∧ v.url = "/watch?v=" ++ id ∧ ReadOff d v := by
    intro id hid
    obtain ⟨v, hdecode, hurl⟩ := decode_of_usableId?_eq_some hd hid
    exact ⟨v, hdecode, hurl, readOff_of_decode hdecode⟩
  refine ⟨?_, ?_, hitem, ?_⟩
  · intro fault hfailed
    cases hid : d.usableId? with
    | none =>
        rw [decode_of_usableId?_eq_none hd hid] at hfailed
        cases hfailed
    | some id =>
        obtain ⟨v, hdecode, -⟩ := hitem id hid
        rw [hdecode] at hfailed
        cases hfailed
  · refine ⟨?_, decode_of_usableId?_eq_none hd⟩
    intro habsent
    cases hid : d.usableId? with
    | none => rfl
    | some id =>
        obtain ⟨v, hdecode, -⟩ := hitem id hid
        rw [hdecode] at habsent
        cases habsent
  · intro e v w hv hw field hkey
    exact (readOff_of_decode hv).value_eq (readOff_of_decode hw) field hkey

/-- A fragment with a number for its id, and some view count. -/
def numbered (views : Document) : Document :=
  .object [("videoId", .int 7), ("title", .list []), ("viewCountText", views)]

/-- A numbered fragment decodes, and taking its view count away leaves its title
as it is. -/
theorem decode_numbered_by_keys :
    (numbered (.text "1.2M views")).Moderate ∧
      ∃ v, decode { content := numbered (.text "1.2M views") } = .item v ∧
        v.url = "/watch?v=7" ∧
        ∀ w, decode { content := numbered .null } = .item w →
          v.value .title = w.value .title := by
  have hmoderate : (numbered (.text "1.2M views")).Moderate := by
    simp only [numbered, Document.Moderate, Document.ModerateEntries, Document.ModerateElements]
    decide +kernel
  obtain ⟨-, -, hitem, happart⟩ := decode_moderate_by_keys hmoderate
  obtain ⟨v, hdecode, hurl, -⟩ := hitem "7" rfl
  refine ⟨hmoderate, v, hdecode, hurl, ?_⟩
  intro w hw
  apply happart _ v w hdecode hw
  rintro _ ⟨⟩
  rfl

end Fragment

end KidsListing
