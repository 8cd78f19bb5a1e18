import KidsListing.Proofs.Document.Reader
import KidsListing.Proofs.Feed.ChannelFile
import KidsListing.Proofs.Text.Blank
import Mathlib

/-!
# The curated channel list

Whenever loading gives a list, there are channels on it, none of them twice, and each is a
trimmed id.  What a file lists are the ids that its entries name, each where it is named
first.  A list that was loaded once is loaded again unchanged from a file that lists it,
and nothing is logged.
-/

namespace KidsListing.Channels

open KidsListing.Text (BareEnds BareEndsBy)

/-- The id that an entry of a channel file names: the entry itself, or what it has under
`channel_id` unless that is blank, without the blanks around it. -/
inductive Names : RawDocument → RawText → Prop
  | text {id : RawText} (hsome : id.trimmed ≠ []) : Names (.text id) id.trimmed
  | object {fields : List (RawText × RawDocument)} {id : RawDocument}
      (hid : Document.lookup (.ofString "channel_id") fields = some id)
      (hused : id.isBlank = false) (hsome : id.asText.trimmed ≠ []) :
      Names (.object fields) id.asText.trimmed

/-- Some entry names the one id, and no entry before it names the other. -/
def NamedBefore (entries : List RawDocument) (id other : RawText) : Prop :=
  ∃ before entry after, entries = before ++ entry :: after ∧ Names entry id ∧
    ∀ earlier ∈ before, ¬ Names earlier other

/-- The ids that some entries name, each once, in the order in which they are named first. -/
structure FirstNamed (entries : List RawDocument) (ids : List RawText) : Prop where
  nodup : ids.Nodup
  mem_iff : ∀ id, id ∈ ids ↔ ∃ entry ∈ entries, Names entry id
  ordered : ids.Pairwise (NamedBefore entries)

/-- Channels that can be asked for: at least one, none twice, each a trimmed id. -/
structure Usable (channels : List RawText) : Prop where
  ne_nil : channels ≠ []
  nodup : channels.Nodup
  ids : ∀ id ∈ channels, id ≠ [] ∧ BareEndsBy CodePoint.isBlank id

/-! ## First occurrences -/

theorem mem_firstOccurrences_iff {seen list : List RawText} {id : RawText} :
    id ∈ firstOccurrences seen list ↔ id ∈ list ∧ id ∉ seen := by
  induction list generalizing seen with
  | nil => simp [firstOccurrences]
  | cons first rest ih =>
      rw [firstOccurrences]
      split
      · rename_i hseen
        rw [ih, List.mem_cons]
        constructor
        · exact fun h => ⟨.inr h.1, h.2⟩
        · rintro ⟨rfl | hrest, hnew⟩
          · exact absurd hseen hnew
          · exact ⟨hrest, hnew⟩
      · rename_i hnew
        rw [List.mem_cons, ih, List.mem_cons, List.mem_cons]
        by_cases hid : id = first
        · simp [hid, hnew]
        · simp [hid]

theorem nodup_firstOccurrences (seen list : List RawText) :
    (firstOccurrences seen list).Nodup := by
  induction list generalizing seen with
  | nil => exact List.nodup_nil
  | cons first rest ih =>
      rw [firstOccurrences]
      split
      · exact ih seen
      · refine List.nodup_cons.2 ⟨?_, ih _⟩
        intro hmem
        exact (mem_firstOccurrences_iff.1 hmem).2 List.mem_cons_self

/-- Before the first occurrence of a member there is none of those that come later. -/
theorem pairwise_firstOccurrences (seen list : List RawText) :
    (firstOccurrences seen list).Pairwise fun id other =>
      ∃ before after, list = before ++ id :: after ∧ other ∉ before := by
  induction list generalizing seen with
  | nil => exact List.Pairwise.nil
  | cons first rest ih =>
      rw [firstOccurrences]
      split
      · rename_i hseen
        apply (ih seen).imp_of_mem
        rintro id other - hother ⟨before, after, rfl, hbefore⟩
        have hne : other ≠ first := fun h => (mem_firstOccurrences_iff.1 hother).2 (h ▸ hseen)
        exact ⟨first :: before, after, rfl, by simp [hne, hbefore]⟩
      · refine List.pairwise_cons.2 ⟨fun other _ => ⟨[], rest, rfl, List.not_mem_nil⟩, ?_⟩
        apply (ih (first :: seen)).imp_of_mem
        rintro id other - hother ⟨before, after, rfl, hbefore⟩
        have hnew := (mem_firstOccurrences_iff.1 hother).2
        have hne : other ≠ first := fun h => hnew (h ▸ List.mem_cons_self)
        exact ⟨first :: before, after, rfl, by simp [hne, hbefore]⟩

theorem firstOccurrences_of_nodup {seen list : List RawText} (h : list.Nodup)
    (hnew : ∀ id ∈ list, id ∉ seen) : firstOccurrences seen list = list := by
  induction list generalizing seen with
  | nil => rfl
  | cons first rest ih =>
      obtain ⟨hfirst, hrest⟩ := List.nodup_cons.1 h
      obtain ⟨hseen, hlater⟩ := List.forall_mem_cons.1 hnew
      rw [firstOccurrences, if_neg hseen, ih hrest]
      intro id hid hmem
      rcases List.mem_cons.1 hmem with rfl | hmem
      · exact hfirst hid
      · exact hlater id hid hmem

/-! ## The ids of a file -/

theorem entryId_object (fields : List (RawText × RawDocument)) :
    entryId (.object fields) =
      let id := (Document.lookup (.ofString "channel_id") fields).getD .null
      if id.isBlank then [] else id.asText.trimmed :=
  rfl

theorem entryId_eq_iff {entry : RawDocument} {id : RawText} (h : id ≠ []) :
    entryId entry = id ↔ Names entry id := by
  constructor
  · rintro rfl
    cases entry with
    | text id => exact .text h
    | object fields =>
        rw [entryId_object] at h ⊢
        cases hid : Document.lookup (.ofString "channel_id") fields with
        | none =>
            rw [hid] at h
            exact absurd rfl h
        | some id =>
            simp only [hid, Option.getD_some] at h ⊢
            split at h
            · exact absurd rfl h
            · rename_i hused
              rw [if_neg hused]
              exact .object hid (Bool.not_eq_true _ ▸ hused) h
    | _ => exact absurd rfl h
  · intro hnames
    cases hnames with
    | text => rfl
    | object hid hused =>
        simp only [entryId_object, hid, Option.getD_some, hused, Bool.false_eq_true, if_false]

theorem Names.ne_empty {entry : RawDocument} {id : RawText} (h : Names entry id) : id ≠ [] := by
  cases h <;> assumption

theorem Names.bareEnds {entry : RawDocument} {id : RawText} (h : Names entry id) :
    BareEndsBy CodePoint.isBlank id := by
  cases h <;> exact Text.bareEndsBy_trimBy _

def named (entries : List RawDocument) : List RawText :=
  (entries.map entryId).filter fun id => id ≠ []

theorem mem_named_iff {entries : List RawDocument} {id : RawText} :
    id ∈ named entries ↔ ∃ entry ∈ entries, Names entry id := by
  simp only [named, List.mem_filter, List.mem_map, decide_eq_true_eq]
  constructor
  · rintro ⟨⟨entry, hentry, hid⟩, hsome⟩
    exact ⟨entry, hentry, (entryId_eq_iff hsome).1 hid⟩
  · rintro ⟨entry, hentry, hnames⟩
    exact ⟨⟨entry, hentry, (entryId_eq_iff hnames.ne_empty).2 hnames⟩, hnames.ne_empty⟩

theorem namedBefore_of_named {entries : List RawDocument} {id other : RawText}
    {before after : List RawText} (h : named entries = before ++ id :: after)
    (hother : other ∉ before) : NamedBefore entries id other := by
  have hid : id ∈ named entries := by
    rw [h]
    exact List.mem_append_right _ List.mem_cons_self
  have hsome : id ≠ [] := (mem_named_iff.1 hid).choose_spec.2.ne_empty
  obtain ⟨skipped, rest, hmap, hskipped, hrest⟩ := List.filter_eq_append_iff.1 h
  obtain ⟨blanks, later, rfl, hblanks, -, -⟩ := List.filter_eq_cons_iff.1 hrest
  rw [← List.append_assoc] at hmap
  obtain ⟨first, others, rfl, hfirst, hothers⟩ := List.map_eq_append_iff.1 hmap
  obtain ⟨entry, last, rfl, hentry, -⟩ := List.map_eq_cons_iff.1 hothers
  refine ⟨first, entry, last, rfl, (entryId_eq_iff hsome).1 hentry, ?_⟩
  intro earlier hearlier hnames
  have hmem : other ∈ skipped ++ blanks := by
    rw [← hfirst, ← (entryId_eq_iff hnames.ne_empty).2 hnames]
    exact List.mem_map_of_mem hearlier
  rcases List.mem_append.1 hmem with hskip | hblank
  · apply hother
    rw [← hskipped]
    exact List.mem_filter.2 ⟨hskip, by simpa using hnames.ne_empty⟩
  · exact hblanks other hblank (by simpa using hnames.ne_empty)

theorem firstNamed_ids (entries : List RawDocument) : FirstNamed entries (ids entries) where
  nodup := nodup_firstOccurrences _ _
  mem_iff id := by
    rw [← mem_named_iff]
    exact mem_firstOccurrences_iff.trans (and_iff_left List.not_mem_nil)
  ordered := by
    apply (pairwise_firstOccurrences [] (named entries)).imp
    rintro id other ⟨before, after, hnamed, hother⟩
    exact namedBefore_of_named hnamed hother

theorem Names.unique {entry : RawDocument} {id other : RawText} (h : Names entry id)
    (hother : Names entry other) : other = id := by
  rw [← (entryId_eq_iff h.ne_empty).2 h, (entryId_eq_iff hother.ne_empty).2 hother]

/-- An entry that names an id is not earlier than one before which the id is not named. -/
theorem Names.eq_of_earlier {entry later : RawDocument} {id other : RawText} (h : Names entry id)
    (hlater : Names later other) {before between after rest : List RawDocument}
    (hentries : entry :: after = between ++ later :: rest)
    (hbefore : ∀ earlier ∈ before ++ between, ¬ Names earlier id) : id = other := by
  cases between with
  | nil =>
      obtain ⟨rfl, -⟩ := List.cons.inj hentries
      exact hlater.unique h
  | cons first between =>
      obtain ⟨rfl, -⟩ := List.cons.inj hentries
      exact absurd h (hbefore entry (by simp))

/-- Of two ids only one can be named before the other. -/
theorem NamedBefore.antisymm {entries : List RawDocument} {id other : RawText}
    (h : NamedBefore entries id other) (hother : NamedBefore entries other id) :
    id = other := by
  obtain ⟨before, entry, after, hentries, hid, hbefore⟩ := h
  obtain ⟨before', entry', after', hentries', hid', hbefore'⟩ := hother
  rw [hentries] at hentries'
  rcases List.append_eq_append_iff.1 hentries' with
    ⟨between, rfl, hrest⟩ | ⟨between, rfl, hrest⟩
  · exact hid.eq_of_earlier hid' hrest hbefore'
  · exact (hid'.eq_of_earlier hid hrest hbefore).symm

theorem FirstNamed.unique {entries : List RawDocument} {ids others : List RawText}
    (h : FirstNamed entries ids) (hothers : FirstNamed entries others) : others = ids := by
  have hperm : others.Perm ids := by
    apply (List.perm_ext_iff_of_nodup hothers.nodup h.nodup).2
    intro id
    rw [h.mem_iff, hothers.mem_iff]
  exact hperm.eq_of_pairwise (fun _ _ _ _ hab hba => hab.antisymm hba) hothers.ordered h.ordered

/-! ## Loading -/

theorem load_of_lists {source : Source} {entries : List RawDocument} (h : source.Lists entries) :
    load source = ⟨.ok (orFallback (ids entries)), []⟩ := by
  obtain ⟨text, fields, rfl, hread, hlookup⟩ := h
  rw [load_encode_of_ok hread, ofDocument, entries?_eq_some_iff.2 ⟨fields, rfl, hlookup⟩]
  rfl

theorem load_of_not_lists {source : Source} {channels : List RawText}
    (h : (load source).outcome = .ok channels) (hnone : ∀ entries, ¬ source.Lists entries) :
    channels = fallback := by
  have hloadable : source.Loadable := by
    by_contra hnot
    obtain ⟨defect, hfail⟩ := outcome_load_of_not_loadable hnot
    rw [h] at hfail
    cases hfail
  obtain ⟨loaded, hloaded, hfallback⟩ := outcome_load_of_loadable hloadable
  rw [hloaded] at h
  rw [← Except.ok.inj h]
  exact hfallback hnone

theorem ofString_injective : Function.Injective RawText.ofString := by
  intro text other h
  have hcharacters := List.map_injective_iff.2 (fun _ _ => CodePoint.character.inj) h
  exact String.toList_inj.1 hcharacters

theorem bareEndsBy_ofString {text : String} (h : BareEnds text.toList) :
    BareEndsBy CodePoint.isBlank (RawText.ofString text) := by
  rw [BareEndsBy, RawText.ofString, List.head?_map, List.getLast?_map]
  constructor
  · rintro _ hpoint
    obtain ⟨c, hc, rfl⟩ := Option.map_eq_some_iff.1 hpoint
    exact h.1 c hc
  · rintro _ hpoint
    obtain ⟨c, hc, rfl⟩ := Option.map_eq_some_iff.1 hpoint
    exact h.2 c hc

theorem usable_fallback : Usable fallback where
  ne_nil := List.cons_ne_nil _ _
  nodup := List.Nodup.map ofString_injective (show builtIn.Nodup by decide)
  ids := by
    have hbuiltIn : ∀ id ∈ builtIn, id.toList ≠ [] ∧ BareEnds id.toList := by decide
    rw [fallback, List.forall_mem_map]
    intro id hid
    obtain ⟨hsome, hbare⟩ := hbuiltIn id hid
    exact ⟨mt List.map_eq_nil_iff.1 hsome, bareEndsBy_ofString hbare⟩

theorem usable_of_firstNamed {entries : List RawDocument} {ids : List RawText}
    (h : FirstNamed entries ids) (hsome : ids ≠ []) : Usable ids where
  ne_nil := hsome
  nodup := h.nodup
  ids id hid := by
    obtain ⟨entry, -, hnames⟩ := (h.mem_iff id).1 hid
    exact ⟨hnames.ne_empty, hnames.bareEnds⟩

theorem usable_orFallback (entries : List RawDocument) : Usable (orFallback (ids entries)) := by
  rw [orFallback]
  split
  · exact usable_fallback
  · rename_i hsome
    exact usable_of_firstNamed (firstNamed_ids entries) hsome

theorem trimmed_eq_of_bareEndsBy {id : RawText} (h : BareEndsBy CodePoint.isBlank id) :
    id.trimmed = id :=
  Text.trimBy_eq_of_bareEndsBy h

/-- Usable channels are named by themselves, and each only once. -/
theorem ids_of_usable {channels : List RawText} (h : Usable channels) :
    ids (channels.map .text) = channels := by
  have hentryIds : (channels.map RawDocument.text).map entryId = channels := by
    rw [List.map_map]
    exact (List.map_congr_left fun id hid => trimmed_eq_of_bareEndsBy (h.ids id hid).2).trans
      (List.map_id _)
  have hnamed : named (channels.map .text) = channels := by
    rw [named, hentryIds]
    exact List.filter_eq_self.2 fun id hid => by simpa using (h.ids id hid).1
  change firstOccurrences [] (named (channels.map .text)) = channels
  rw [hnamed]
  exact firstOccurrences_of_nodup h.nodup fun _ _ => List.not_mem_nil

theorem load_again {source : Source} {channels : List RawText} (h : Usable channels)
    (hlists : source.Lists (channels.map .text)) : load source = ⟨.ok channels, []⟩ := by
  rw [load_of_lists hlists, ids_of_usable h, orFallback, if_neg h.ne_nil]

/-! ## Ids without pairs -/

theorem Names.unpaired {entry : RawDocument} {id : RawText} (h : Names entry id)
    (hentry : entry.Unpaired) : id.Unpaired := by
  have htrimmed {text : RawText} (htext : text.Unpaired) : text.trimmed.Unpaired := by
    obtain ⟨left, right, -, -, hcut⟩ := Text.exists_eq_append_trimBy CodePoint.isBlank text
    rw [RawText.Unpaired, hcut] at htext
    exact htext.left_of_append.right_of_append
  cases h with
  | text =>
      cases hentry with
      | text hvalue => exact htrimmed hvalue
  | @object fields id hid =>
      cases hentry with
      | object hfields =>
          have hvalue := hfields _ (Document.mem_of_lookup hid)
          apply htrimmed
          cases hvalue with
          | text htext => exact htext
          | _ => exact RawText.unpaired_map_character _

theorem unpaired_of_lists {source : Source} {entries : List RawDocument}
    (h : source.Lists entries) : ∀ entry ∈ entries, entry.Unpaired := by
  obtain ⟨text, fields, -, hread, hlookup⟩ := h
  cases Document.unpaired_of_readRaw hread with
  | object hfields =>
      cases hfields _ (Document.mem_of_lookup hlookup) with
      | list hentries => exact hentries

theorem unpaired_fallback : ∀ id ∈ fallback, id.Unpaired :=
  List.forall_mem_map.2 fun id _ => RawText.unpaired_ofString id

theorem unpaired_orFallback {source : Source} {entries : List RawDocument}
    (h : source.Lists entries) : ∀ id ∈ orFallback (ids entries), id.Unpaired := by
  rw [orFallback]
  split
  · exact unpaired_fallback
  · intro id hid
    obtain ⟨entry, hentry, hnames⟩ := ((firstNamed_ids entries).mem_iff id).1 hid
    exact hnames.unpaired (unpaired_of_lists h entry hentry)

/-- Where entries name ids, these are the channels. -/
theorem firstNamed_iff_eq_orFallback {entries : List RawDocument}
    (h : ∃ entry ∈ entries, ∃ id, Names entry id) (others : List RawText) :
    FirstNamed entries others ↔ others = orFallback (ids entries) := by
  obtain ⟨entry, hentry, id, hnames⟩ := h
  have hfirst := firstNamed_ids entries
  have hmem : id ∈ ids entries := (hfirst.mem_iff id).2 ⟨entry, hentry, hnames⟩
  rw [orFallback, if_neg (List.ne_nil_of_mem hmem)]
  constructor
  · exact hfirst.unique
  · intro hothers
    rw [hothers]
    exact hfirst

theorem orFallback_ids_of_unnamed {entries : List RawDocument}
    (h : ∀ entry ∈ entries, ∀ id, ¬ Names entry id) : orFallback (ids entries) = fallback := by
  have hempty : ids entries = [] := by
    apply List.eq_nil_iff_forall_not_mem.2
    intro id hid
    obtain ⟨entry, hentry, hnames⟩ := ((firstNamed_ids entries).mem_iff id).1 hid
    exact h entry hentry id hnames
  rw [orFallback, if_pos hempty]

/-- What loading gives can be used.  Where a file has a list of entries it is exactly the
ids that they name first, or the built-in list if they name none, and elsewhere it is the
built-in list.  Written to a file it can be loaded again, unchanged and with nothing
logged. -/
theorem load_usable {source : Source} {channels : List RawText}
    (h : (load source).outcome = .ok channels) :
    Usable channels ∧
      (∀ entries, source.Lists entries →
        ((∃ entry ∈ entries, ∃ id, Names entry id) →
          ∀ ids, FirstNamed entries ids ↔ ids = channels) ∧
        ((∀ entry ∈ entries, ∀ id, ¬ Names entry id) → channels = fallback)) ∧
      ((∀ entries, ¬ source.Lists entries) → channels = fallback) ∧
      (∃ again : Source, again.Lists (channels.map .text)) ∧
      ∀ again : Source, again.Lists (channels.map .text) → load again = ⟨.ok channels, []⟩ := by
  have hlisted (entries : List RawDocument) (hlists : source.Lists entries) :
      channels = orFallback (ids entries) := by
    rw [load_of_lists hlists] at h
    exact (Except.ok.inj h).symm
  have hloaded : Usable channels ∧ ∀ id ∈ channels, id.Unpaired := by
    by_cases hlists : ∃ entries, source.Lists entries
    · obtain ⟨entries, hentries⟩ := hlists
      rw [hlisted entries hentries]
      exact ⟨usable_orFallback entries, unpaired_orFallback hentries⟩
    · rw [load_of_not_lists h (not_exists.1 hlists)]
      exact ⟨usable_fallback, unpaired_fallback⟩
  obtain ⟨husable, hunpaired⟩ := hloaded
  refine ⟨husable, ?_, load_of_not_lists h, ⟨_, lists_written hunpaired⟩,
    fun again => load_again husable⟩
  intro entries hlists
  rw [hlisted entries hlists]
  exact ⟨firstNamed_iff_eq_orFallback, orFallback_ids_of_unnamed⟩

/-- Entries of both forms, with one id in each of them, and two surrogates that stand alone. -/
def mixedEntries : List RawDocument := [
  .text (.ofString " a"), .object [(.ofString "channel_id", .int 7)], .null,
  .object [(.ofString "channel_id", .text (.ofString "a\n"))], .text [],
  .text (.ofString "7"), .text [.surrogate 0], .text [.surrogate 1]]

/-- A channel file with these entries. -/
def mixedText : String :=
  "\x7b\"channels\": [\" a\", \x7b\"channel_id\": 7\x7d, null, " ++
    "\x7b\"channel_id\": \"a\\n\"\x7d, \"\", \"7\", \"\\ud800\", \"\\ud801\"]\x7d"

def mixedIds : List RawText :=
  [.ofString "a", .ofString "7", [.surrogate 0], [.surrogate 1]]

theorem lists_mixedText :
    (Source.file (Text.Utf8.encode mixedText)).Lists mixedEntries := by
  have hread : Document.readRaw mixedText.toList =
      .ok (.object [(.ofString "channels", .list mixedEntries)]) := by
    cbv
  exact ⟨mixedText, _, rfl, hread, rfl⟩

theorem load_usable_mixed :
    ∃ source : Source, (load source).outcome = .ok mixedIds ∧ Usable mixedIds ∧
      FirstNamed mixedEntries mixedIds := by
  have houtcome : (load (.file (Text.Utf8.encode mixedText))).outcome = .ok mixedIds := by
    rw [load_of_lists lists_mixedText]
    rfl
  obtain ⟨husable, hentries, -⟩ := load_usable houtcome
  have hnames : Names (.text [.surrogate 0]) [.surrogate 0] :=
    .text (show RawText.trimmed [.surrogate 0] ≠ [] by decide)
  have hfirst := (hentries mixedEntries lists_mixedText).1 ⟨_, by simp [mixedEntries], _, hnames⟩
  exact ⟨_, houtcome, husable, (hfirst _).2 rfl⟩

end KidsListing.Channels
