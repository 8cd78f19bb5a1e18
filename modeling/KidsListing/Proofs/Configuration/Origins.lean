import KidsListing.Configuration.Settings
import KidsListing.Proofs.Text.Separated

/-!
# Credentials and the wildcard origin

The wildcard is told from the whole text, before it is taken apart at its
commas.  An asterisk that stands alone is thus without credentials, while one
that is listed beside something else, be it a blank entry, is allowed with
them.
-/

namespace KidsListing

namespace Origins

/-- Entries with commas between them, at least two, of which one is an asterisk
but for blanks. -/
def ListsWildcard (text : List Char) : Prop :=
  ∃ items : List (List Char), [','].intercalate items = text ∧ 2 ≤ items.length ∧
    (∀ item ∈ items, ',' ∉ item) ∧
    ∃ left right, Text.AllBlank left ∧ Text.AllBlank right ∧ left ++ ['*'] ++ right ∈ items

theorem mem_entries_iff {text entry : List Char} :
    entry ∈ entries text ↔
      entry ≠ [] ∧ ∃ item ∈ Text.splitOn ',' text, Text.trim item = entry := by
  simp only [entries, List.mem_filter, List.mem_map, decide_eq_true_eq]
  exact And.comm

/-- Blanks around the whole text are blanks around its first and last entry. -/
theorem entries_trim (text : List Char) : entries (Text.trim text) = entries text := by
  rw [entries, entries, Text.map_trim_splitOn_trim (by decide)]

theorem trim_blank_asterisk_blank {left right : List Char} (hleft : Text.AllBlank left)
    (hright : Text.AllBlank right) : Text.trim (left ++ ['*'] ++ right) = ['*'] := by
  rw [Text.trim_blank_append_blank hleft hright]
  decide

theorem listsWildcard_iff {text : List Char} :
    ListsWildcard text ↔ 2 ≤ (Text.splitOn ',' text).length ∧ ['*'] ∈ entries text := by
  constructor
  · rintro ⟨items, rfl, htwo, hcommas, left, right, hleft, hright, hitem⟩
    have hsome : items ≠ [] := List.ne_nil_of_mem hitem
    have hsplit := Text.splitOn_intercalate_of_not_mem hcommas hsome
    rw [mem_entries_iff, hsplit]
    exact ⟨htwo, List.cons_ne_nil _ _, _, hitem, trim_blank_asterisk_blank hleft hright⟩
  · rintro ⟨htwo, hentry⟩
    obtain ⟨-, item, hitem, htrim⟩ := mem_entries_iff.1 hentry
    obtain ⟨left, right, hleft, hright, hends⟩ := Text.exists_eq_append_trim item
    refine ⟨Text.splitOn ',' text, Text.intercalate_splitOn_groups ',' text, htwo,
      fun item hitem => Text.not_mem_of_mem_splitOn hitem, left, right, hleft, hright, ?_⟩
    rwa [← htrim, ← hends]

/-- Of the texts with an asterisk among their entries, the asterisk alone is the
one with no comma. -/
theorem trim_eq_asterisk_iff {text : List Char} (h : ['*'] ∈ entries text) :
    Text.trim text = ['*'] ↔ ¬ 2 ≤ (Text.splitOn ',' text).length := by
  constructor
  · intro htrim
    obtain ⟨left, right, hleft, hright, htext⟩ := Text.exists_eq_append_trim text
    have hcomma : ',' ∉ text := by
      rw [htext, htrim]
      simp [Text.not_mem_of_allBlank hleft, Text.not_mem_of_allBlank hright,
        show Text.isBlank ',' = false by decide]
    rw [Text.splitOn_of_not_mem hcomma]
    exact Nat.not_le.2 (Nat.lt_succ_self 1)
  · intro hone
    obtain ⟨-, item, hitem, htrim⟩ := mem_entries_iff.1 h
    obtain ⟨group, hgroup⟩ : ∃ group, Text.splitOn ',' text = [group] := by
      apply List.length_eq_one_iff.1
      have hpos := List.length_pos_of_mem hitem
      omega
    have htext := Text.intercalate_splitOn_groups ',' text
    rw [hgroup, List.intercalate_singleton] at htext
    rw [hgroup, List.mem_singleton] at hitem
    rw [← htext, ← hitem, htrim]

/-- Only the whole text decides between the wildcard and a list. -/
theorem credentials_wildcard_ofText_iff (text : String) :
    ((ofText text).credentials = true ∧ "*" ∈ (ofText text).allowed) ↔
      text ≠ "*" ∧ ['*'] ∈ entries text.toList := by
  rw [ofText]
  split
  · rename_i hempty
    subst hempty
    decide
  · split
    · rename_i hany
      simp [any, hany]
    · rename_i hany
      cases hentries : entries text.toList with
      | nil => simp [default]
      | cons first rest =>
          have hmem : "*" ∈ (first :: rest).map String.ofList ↔ ['*'] ∈ first :: rest := by
            have hwild : "*" = String.ofList ['*'] := rfl
            rw [hwild]
            exact List.mem_map_of_injective fun _ _ => String.ofList_injective
          simp only [hany, ne_eq, not_false_eq_true, true_and]
          exact hmem

end Origins

namespace Settings

open Origins (ListsWildcard)

/-- Credentials are never combined with the wildcard exactly as long as the
variable does not list an asterisk beside other entries. -/
theorem origins_load_without_wildcard_iff (environment : Environment) :
    ¬ ((load environment).origins.credentials = true ∧
        "*" ∈ (load environment).origins.allowed) ↔
      ¬ ListsWildcard ((environment .allowedOrigins).getD "").toList := by
  let text := ((environment .allowedOrigins).getD "").toList
  have halone : raw environment .allowedOrigins ≠ "*" ↔ Text.trim text ≠ ['*'] :=
    not_congr String.ofList_inj
  have hentries : Origins.entries (raw environment .allowedOrigins).toList =
      Origins.entries text := by
    rw [raw, Text.trimmed, String.toList_ofList]
    exact Origins.entries_trim text
  apply not_congr
  change (Origins.ofText (raw environment .allowedOrigins)).credentials = true ∧
    "*" ∈ (Origins.ofText (raw environment .allowedOrigins)).allowed ↔ ListsWildcard text
  rw [Origins.credentials_wildcard_ofText_iff, halone, hentries, Origins.listsWildcard_iff]
  constructor
  · rintro ⟨hasterisk, hentry⟩
    have htwo := mt (Origins.trim_eq_asterisk_iff hentry).2 hasterisk
    exact ⟨Decidable.not_not.1 htwo, hentry⟩
  · rintro ⟨htwo, hentry⟩
    exact ⟨fun htrim => (Origins.trim_eq_asterisk_iff hentry).1 htrim htwo, hentry⟩

theorem origins_load_blank_and_wildcard :
    (load fun
      | .allowedOrigins => some ",*"
      | _ => none).origins = ⟨["*"], true⟩ := by
  decide

end Settings

end KidsListing
