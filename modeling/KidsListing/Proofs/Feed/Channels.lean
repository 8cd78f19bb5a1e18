import KidsListing.Feed.Channels
import KidsListing.Proofs.Document.Numeral
import KidsListing.Proofs.Text.Utf8

/-!
# Loading the curated channels

Whatever stands at the place of a channel file, loading gives a list of
channels, and the built-in one unless the file lists channels of its own.  Two
kinds of files are the exception: octets that are not UTF-8, and a numeral of
more digits than are read; and so is a place of which nothing can be told.
-/

namespace KidsListing.Channels

open KidsListing.Text.Utf8 (encode decode? decode?_eq_some_iff decode?_encode encode_injective)

/-- A file in UTF-8 whose document has a list of entries under `channels`. -/
def Source.Lists (source : Source) (entries : List RawDocument) : Prop :=
  ∃ (text : String) (fields : List (RawText × RawDocument)), source = .file (encode text) ∧
    Document.readRaw text.toList = .ok (.object fields) ∧
    Document.lookup (.ofString "channels") fields = some (.list entries)

/-- It is known whether there is a file, and one that can be read is in UTF-8, and the
reader comes to no numeral that is too long. -/
def Source.Loadable : Source → Prop
  | .file octets => ∃ text : String, octets = encode text ∧
      Document.readRaw text.toList ≠ .error .numeralTooLong
  | .unknown _ => False
  | _ => True

theorem entries?_eq_some_iff {document : RawDocument} {entries : List RawDocument} :
    entries? document = some entries ↔
      ∃ fields, document = .object fields ∧
        Document.lookup (.ofString "channels") fields = some (.list entries) := by
  constructor
  · intro h
    unfold entries? at h
    split at h
    · rename_i fields
      split at h
      · rename_i listed hlookup
        obtain rfl := Option.some.inj h
        exact ⟨fields, rfl, hlookup⟩
      · cases h
    · cases h
  · rintro ⟨fields, rfl, hlookup⟩
    simp only [entries?, hlookup]

theorem lists_encode_iff {text : String} {entries : List RawDocument} :
    (Source.file (encode text)).Lists entries ↔
      ∃ document, Document.readRaw text.toList = .ok document ∧
        entries? document = some entries := by
  constructor
  · rintro ⟨other, fields, hsource, hread, hlookup⟩
    obtain rfl := encode_injective (Source.file.inj hsource)
    exact ⟨_, hread, entries?_eq_some_iff.2 ⟨fields, rfl, hlookup⟩⟩
  · rintro ⟨document, hread, hentries⟩
    obtain ⟨fields, rfl, hlookup⟩ := entries?_eq_some_iff.1 hentries
    exact ⟨text, fields, rfl, hread, hlookup⟩

/-! ## Files -/

theorem outcome_unreadable (warning : LogEntry) :
    (unreadable warning).outcome = .ok fallback :=
  rfl

theorem outcome_ofDocument (document : RawDocument) :
    (ofDocument document).outcome =
      .ok ((entries? document).elim fallback fun entries => orFallback (ids entries)) := by
  rw [ofDocument]
  cases entries? document <;> rfl

theorem load_of_not_utf8 {octets : List UInt8} (h : ∀ text, octets ≠ encode text) :
    load (.file octets) = .fail (.defect .notUtf8) := by
  have hdecode : decode? octets = none := by
    apply Option.eq_none_iff_forall_ne_some.2
    intro text hsome
    exact h _ (decode?_eq_some_iff.1 hsome)
  simp only [load, hdecode]

theorem load_encode_of_error {text : String} {e : Document.ReadError}
    (h : Document.readRaw text.toList = .error e) :
    load (.file (encode text)) =
      match e with
      | .malformed => unreadable (.channelsUnreadable .malformed)
      | .numeralTooLong => .fail (.defect .numeralTooLong) := by
  simp only [load, decode?_encode, h]
  cases e <;> rfl

theorem load_encode_of_ok {text : String} {document : RawDocument}
    (h : Document.readRaw text.toList = .ok document) :
    load (.file (encode text)) = ofDocument document := by
  simp only [load, decode?_encode, h]

/-- A file that is not loadable makes loading fail. -/
theorem outcome_load_of_not_loadable {source : Source} (h : ¬ source.Loadable) :
    ∃ defect, (load source).outcome = .error (.defect defect) := by
  cases source with
  | absent => exact absurd trivial h
  | unknown reason => exact ⟨_, rfl⟩
  | refused reason => exact absurd trivial h
  | directory => exact absurd trivial h
  | file octets =>
      by_cases hutf8 : ∃ text, octets = encode text
      · obtain ⟨text, rfl⟩ := hutf8
        have hread : Document.readRaw text.toList = .error .numeralTooLong :=
          Classical.not_not.1 fun hread => h ⟨text, rfl, hread⟩
        exact ⟨_, by rw [load_encode_of_error hread]; rfl⟩
      · exact ⟨_, by rw [load_of_not_utf8 (not_exists.1 hutf8)]; rfl⟩

theorem outcome_load_of_loadable {source : Source} (h : source.Loadable) :
    ∃ channels, (load source).outcome = .ok channels ∧
      ((∀ entries, ¬ source.Lists entries) → channels = fallback) := by
  cases source with
  | absent => exact ⟨fallback, rfl, fun _ => rfl⟩
  | unknown reason => exact h.elim
  | refused reason => exact ⟨fallback, outcome_unreadable _, fun _ => rfl⟩
  | directory => exact ⟨fallback, outcome_unreadable _, fun _ => rfl⟩
  | file octets =>
      obtain ⟨text, rfl, hread⟩ := h
      cases hdocument : Document.readRaw text.toList with
      | error e =>
          cases e with
          | malformed =>
              refine ⟨fallback, ?_, fun _ => rfl⟩
              rw [load_encode_of_error hdocument]
              exact outcome_unreadable _
          | numeralTooLong => exact absurd hdocument hread
      | ok document =>
          refine ⟨_, by rw [load_encode_of_ok hdocument, outcome_ofDocument], ?_⟩
          intro hnone
          cases hentries : entries? document with
          | none => rfl
          | some entries =>
              exact absurd (lists_encode_iff.2 ⟨document, hdocument, hentries⟩) (hnone entries)

theorem loadable_of_not_hasLongRun {text : String}
    (h : ¬ Document.HasLongRun text.toList) : (Source.file (encode text)).Loadable :=
  ⟨text, rfl, fun hread => h (Document.hasLongRun_of_readRaw hread)⟩

/-- Loading gives a list, and the built-in one where the file lists no channels,
exactly for the loadable sources; all others make it fail.  A text with no more
digits in a row than a numeral may have is loadable. -/
theorem load_settles_iff (source : Source) :
    ((∃ channels, (load source).outcome = .ok channels ∧
        ((∀ entries, ¬ source.Lists entries) → channels = fallback)) ↔ source.Loadable) ∧
      (source.Loadable ∨ ∃ defect, (load source).outcome = .error (.defect defect)) ∧
      ∀ text : String, source = .file (encode text) →
        source.Loadable ∨ Document.HasLongRun text.toList := by
  refine ⟨⟨?_, outcome_load_of_loadable⟩, ?_, ?_⟩
  · rintro ⟨channels, houtcome, -⟩
    apply Classical.byContradiction
    intro hnot
    obtain ⟨defect, hfail⟩ := outcome_load_of_not_loadable hnot
    rw [houtcome] at hfail
    cases hfail
  · rcases Classical.em source.Loadable with hload | hload
    · exact .inl hload
    · exact .inr (outcome_load_of_not_loadable hload)
  · rintro text rfl
    rcases Classical.em (Document.HasLongRun text.toList) with hrun | hrun
    · exact .inr hrun
    · exact .inl (loadable_of_not_hasLongRun hrun)

/-- One octet that is not UTF-8 stops loading. -/
theorem load_stray_octet_fails :
    (load (.file [0xFF])).outcome = .error (.defect .notUtf8) :=
  rfl

end KidsListing.Channels
