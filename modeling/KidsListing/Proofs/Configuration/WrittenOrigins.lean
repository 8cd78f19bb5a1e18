import KidsListing.Proofs.Configuration.Origins

/-!
# Writing allowed origins

Origins are written with commas between them.  Blanks around an origin or around the whole,
and entries of nothing but blanks, can come and go: as long as no origin is the wildcard,
what is read are the origins that were written, in their order and with repetitions.  In
whatever way the variable is set, there are allowed origins, and each of them can be
written.
-/

namespace KidsListing

namespace Origins

open KidsListing.Text (AllBlank BareEnds splitOn trim)

/-- The entries of a list with blanks around them, and blank entries among them. -/
inductive Spaced : List (List Char) → List (List Char) → Prop
  | nil : Spaced [] []
  | blank {blanks : List Char} {listed items : List (List Char)} (hblanks : AllBlank blanks)
      (hrest : Spaced listed items) : Spaced listed (blanks :: items)
  | entry {left right entry : List Char} {listed items : List (List Char)}
      (hleft : AllBlank left) (hright : AllBlank right) (hrest : Spaced listed items) :
      Spaced (entry :: listed) ((left ++ entry ++ right) :: items)

/-- The entries of a list, spaced and with commas between them, and blanks around the
whole. -/
def Writes (listed : List (List Char)) (text : List Char) : Prop :=
  ∃ left right items, AllBlank left ∧ AllBlank right ∧ Spaced listed items ∧
    text = left ++ [','].intercalate items ++ right

/-- What can be listed as an origin: a text with no comma in it and no blank at its ends. -/
structure Listable (entry : List Char) : Prop where
  ne_nil : entry ≠ []
  comma_not_mem : ',' ∉ entry
  bareEnds : BareEnds entry

/-! ## Reading what was written -/

theorem comma_not_mem_of_allBlank {blanks : List Char} (h : AllBlank blanks) : ',' ∉ blanks :=
  Text.not_mem_of_allBlank h (by decide)

theorem Spaced.comma_not_mem {listed items : List (List Char)} (h : Spaced listed items)
    (hlistable : ∀ entry ∈ listed, Listable entry) : ∀ item ∈ items, ',' ∉ item := by
  induction h with
  | nil => exact nofun
  | blank hblanks _ ih =>
      exact List.forall_mem_cons.2 ⟨comma_not_mem_of_allBlank hblanks, ih hlistable⟩
  | entry hleft hright _ ih =>
      obtain ⟨hentry, hlisted⟩ := List.forall_mem_cons.1 hlistable
      refine List.forall_mem_cons.2 ⟨?_, ih hlisted⟩
      simp only [List.mem_append, not_or]
      exact ⟨⟨comma_not_mem_of_allBlank hleft, hentry.comma_not_mem⟩,
        comma_not_mem_of_allBlank hright⟩

/-- Trimming leaves nothing of the blank entries and no blanks around the others. -/
theorem Spaced.filter_map_trim {listed items : List (List Char)} (h : Spaced listed items)
    (hlistable : ∀ entry ∈ listed, Listable entry) :
    (items.map trim).filter (fun entry => entry ≠ []) = listed := by
  induction h with
  | nil => rfl
  | blank hblanks _ ih =>
      rw [List.map_cons, Text.trim_of_allBlank hblanks, List.filter_cons_of_neg (by simp)]
      exact ih hlistable
  | @entry left right entry listed items hleft hright _ ih =>
      obtain ⟨hentry, hlisted⟩ := List.forall_mem_cons.1 hlistable
      have htrim : trim (left ++ entry ++ right) = entry := by
        rw [Text.trim_blank_append_blank hleft hright]
        exact Text.trimmed_of_bareEnds hentry.bareEnds
      rw [List.map_cons, htrim, List.filter_cons_of_pos (by simpa using hentry.ne_nil),
        ih hlisted]

theorem Spaced.items_ne_nil {listed items : List (List Char)} (h : Spaced listed items)
    (hsome : listed ≠ []) : items ≠ [] := by
  cases h with
  | nil => exact absurd rfl hsome
  | blank => exact List.cons_ne_nil _ _
  | entry => exact List.cons_ne_nil _ _

theorem entries_of_writes {listed : List (List Char)} {text : List Char}
    (h : Writes listed text) (hsome : listed ≠ [])
    (hlistable : ∀ entry ∈ listed, Listable entry) : entries text = listed := by
  obtain ⟨left, right, items, hleft, hright, hspaced, rfl⟩ := h
  have hgroups : splitOn ',' ([','].intercalate items) = items :=
    Text.splitOn_intercalate_of_not_mem (hspaced.comma_not_mem hlistable)
      (hspaced.items_ne_nil hsome)
  calc
    entries (left ++ [','].intercalate items ++ right) =
        entries (trim (left ++ [','].intercalate items ++ right)) := (entries_trim _).symm
    _ = entries (trim ([','].intercalate items)) := by
      rw [Text.trim_blank_append_blank hleft hright]
    _ = entries ([','].intercalate items) := entries_trim _
    _ = (items.map trim).filter (fun entry => entry ≠ []) := by rw [entries, hgroups]
    _ = listed := hspaced.filter_map_trim hlistable

/-- A list without the wildcard is taken as it is, with credentials. -/
theorem ofText_of_entries {text : String} (hsome : entries text.toList ≠ [])
    (hwildcard : ['*'] ∉ entries text.toList) :
    ofText text = ⟨(entries text.toList).map String.ofList, true⟩ := by
  have hempty : text ≠ "" := by
    rintro rfl
    exact hsome rfl
  have hany : text ≠ "*" := by
    rintro rfl
    exact hwildcard (by decide)
  rw [ofText, if_neg hempty, if_neg hany]
  cases hentries : entries text.toList with
  | nil => exact absurd hentries hsome
  | cons first rest => rfl

/-! ## What is read -/

theorem listable_of_mem_entries {text entry : List Char} (h : entry ∈ entries text) :
    Listable entry := by
  obtain ⟨hsome, item, hitem, rfl⟩ := mem_entries_iff.1 h
  have hcomma : ',' ∉ item := Text.not_mem_of_mem_splitOn hitem
  exact ⟨hsome, fun hmem => hcomma (Text.mem_of_mem_trim hmem),
    Text.bareEnds_of_trimmed (Text.trimmed_trim item)⟩

theorem listable_of_mem_allowed {text origin : String} (h : origin ∈ (ofText text).allowed) :
    Listable origin.toList := by
  have hlocal : Listable "http://localhost:5173".toList := ⟨by decide, by decide, by decide⟩
  rw [ofText] at h
  split at h
  · rwa [List.mem_singleton.1 h]
  · split at h
    · rw [List.mem_singleton.1 h]
      exact ⟨by decide, by decide, by decide⟩
    · split at h
      · rwa [List.mem_singleton.1 h]
      · obtain ⟨entry, hentry, rfl⟩ := List.mem_map.1 h
        rw [String.toList_ofList]
        exact listable_of_mem_entries hentry

theorem allowed_ofText_ne_nil (text : String) : (ofText text).allowed ≠ [] := by
  rw [ofText]
  split
  · exact List.cons_ne_nil _ _
  · split
    · exact List.cons_ne_nil _ _
    · split
      · exact List.cons_ne_nil _ _
      · rename_i hsome
        exact fun hnil => hsome (List.map_eq_nil_iff.1 hnil)

end Origins

namespace Settings

open Origins (Listable Writes)

/-- Whichever way origins other than the wildcard are written into the variable, they are
the allowed origins, with credentials.  However the environment is, there are allowed
origins, and each of them can be listed. -/
theorem origins_load_of_writes :
    (∀ (environment : Environment) (origins : List String) (text : String),
      environment .allowedOrigins = some text → origins ≠ [] →
      (∀ origin ∈ origins, Listable origin.toList ∧ origin ≠ "*") →
      Writes (origins.map String.toList) text.toList →
        (load environment).origins = ⟨origins, true⟩) ∧
      ∀ environment : Environment, (load environment).origins.allowed ≠ [] ∧
        ∀ origin ∈ (load environment).origins.allowed, Listable origin.toList := by
  constructor
  · intro environment origins text hset hsome hlistable hwrites
    have hlisted : ∀ entry ∈ origins.map String.toList, Listable entry := by
      intro entry hentry
      obtain ⟨origin, horigin, rfl⟩ := List.mem_map.1 hentry
      exact (hlistable origin horigin).1
    have hnonempty : origins.map String.toList ≠ [] := mt List.map_eq_nil_iff.1 hsome
    have hentries : Origins.entries (raw environment .allowedOrigins).toList =
        origins.map String.toList := by
      rw [raw, hset, Option.getD_some, Text.trimmed, String.toList_ofList, Origins.entries_trim]
      exact Origins.entries_of_writes hwrites hnonempty hlisted
    have hwildcard : ['*'] ∉ origins.map String.toList := by
      intro hmem
      obtain ⟨origin, horigin, hstar⟩ := List.mem_map.1 hmem
      exact (hlistable origin horigin).2 (String.toList_injective hstar)
    change Origins.ofText (raw environment .allowedOrigins) = _
    rw [Origins.ofText_of_entries (by rwa [hentries]) (by rwa [hentries]), hentries,
      List.map_map]
    simp
  · intro environment
    exact ⟨Origins.allowed_ofText_ne_nil _, fun _ => Origins.listable_of_mem_allowed⟩

/-- Three origins, two of them the same, among blank entries. -/
def spacedOrigins : String := "\t, a b ,,\u2003http://localhost:5173,a b \n,\x1c"

def spacedEnvironment : Environment
  | .allowedOrigins => some spacedOrigins
  | _ => none

theorem writes_spacedOrigins :
    Writes (["a b", "http://localhost:5173", "a b"].map String.toList) spacedOrigins.toList := by
  refine ⟨['\t'], ['\x1c'],
    [[], [' '] ++ "a b".toList ++ [' '], [],
      ['\u2003'] ++ "http://localhost:5173".toList ++ [], [] ++ "a b".toList ++ [' ', '\n'], []],
    by decide, by decide, ?_, by decide⟩
  apply Origins.Spaced.blank (by decide)
  apply Origins.Spaced.entry (by decide) (by decide)
  apply Origins.Spaced.blank (by decide)
  apply Origins.Spaced.entry (by decide) (by decide)
  apply Origins.Spaced.entry (by decide) (by decide)
  exact .blank (by decide) .nil

theorem origins_load_of_writes_spaced :
    (load spacedEnvironment).origins = ⟨["a b", "http://localhost:5173", "a b"], true⟩ := by
  have hlistable : ∀ origin ∈ ["a b", "http://localhost:5173", "a b"],
      Listable origin.toList ∧ origin ≠ "*" := by
    intro origin horigin
    simp only [List.mem_cons, List.not_mem_nil, or_false] at horigin
    rcases horigin with rfl | rfl | rfl
    all_goals exact ⟨⟨by decide, by decide, by decide⟩, by decide⟩
  exact origins_load_of_writes.1 spacedEnvironment _ _ rfl (by decide) hlistable
    writes_spacedOrigins

end Settings

end KidsListing
