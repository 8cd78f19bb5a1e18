import KidsListing.Proofs.Document.Reader
import KidsListing.Proofs.Text.Blank
import KidsListing.Proofs.Text.Utf8

/-!
# Characters that stand in for surrogates

When every surrogate has a character of its own to stand in for it, and none of these is in a
text otherwise, the text can be told from every other such text by what it shows.  An object
then shows its entries one by one: no two keys become the same.  Characters for private use
will do; they are no blanks either, so that blanks can be cut off before or after.
-/

namespace KidsListing

variable {standIn : Fin 0x800 → Char}

/-- No character of a text is one that stands in for a surrogate. -/
def RawText.Spares (text : RawText) (standIn : Fin 0x800 → Char) : Prop :=
  ∀ offset, .character (standIn offset) ∉ text

theorem CodePoint.shown_inj (hdistinct : Function.Injective standIn) {point other : CodePoint}
    (hpoint : ∀ offset, point ≠ .character (standIn offset))
    (hother : ∀ offset, other ≠ .character (standIn offset))
    (h : point.shown standIn = other.shown standIn) : point = other := by
  cases point with
  | character c =>
      cases other with
      | character d => exact congrArg character h
      | surrogate offset => exact absurd (congrArg character h) (hpoint offset)
  | surrogate offset =>
      cases other with
      | character d => exact absurd (congrArg character h.symm) (hother offset)
      | surrogate other => exact congrArg surrogate (hdistinct h)

/-- Two texts that spare the stand-ins show the same only if they are the same. -/
theorem RawText.shown_inj (hdistinct : Function.Injective standIn) {text other : RawText}
    (htext : text.Spares standIn) (hother : other.Spares standIn)
    (h : text.shown standIn = other.shown standIn) : text = other := by
  have hmap := String.ofList_injective h
  induction text generalizing other with
  | nil => exact (List.map_eq_nil_iff.1 hmap.symm).symm
  | cons point text ih =>
      cases other with
      | nil => cases hmap
      | cons next other =>
          obtain ⟨hhead, htail⟩ := List.cons.inj hmap
          have hpoint : point = next := by
            apply CodePoint.shown_inj hdistinct _ _ hhead
            · rintro offset rfl
              exact htext offset List.mem_cons_self
            · rintro offset rfl
              exact hother offset List.mem_cons_self
          have htexts := ih (fun offset hmem => htext offset (List.mem_cons_of_mem _ hmem))
            (fun offset hmem => hother offset (List.mem_cons_of_mem _ hmem))
            (congrArg String.ofList htail) htail
          rw [hpoint, htexts]

namespace RawDocument

/-- An entry as it is shown. -/
def shownEntry (standIn : Fin 0x800 → Char) (entry : RawText × RawDocument) :
    String × Document :=
  (entry.1.shown standIn, entry.2.shown standIn)

theorem shownEntries_of_nodup {read : List (String × Document)}
    {entries : List (RawText × RawDocument)}
    (h : ((read ++ entries.map (shownEntry standIn)).map Prod.fst).Nodup) :
    shownEntries standIn read entries = read ++ entries.map (shownEntry standIn) := by
  induction entries generalizing read with
  | nil => rw [shownEntries, List.map_nil, List.append_nil]
  | cons entry rest ih =>
      have hnew : entry.1.shown standIn ∉ read.map Prod.fst := by
        rw [List.map_append] at h
        intro hmem
        exact (List.nodup_append.1 h).2.2 _ hmem _ List.mem_cons_self rfl
      rw [List.map_cons, List.append_cons] at h
      rw [shownEntries, Document.insert_of_not_mem _ hnew]
      exact (ih h).trans (List.append_cons ..).symm

/-- The entries of an object are shown one by one. -/
theorem shown_object (hdistinct : Function.Injective standIn)
    {entries : List (RawText × RawDocument)} (hkeys : (entries.map Prod.fst).Nodup)
    (hspared : ∀ entry ∈ entries, entry.1.Spares standIn) :
    shown standIn (.object entries) = .object (entries.map (shownEntry standIn)) := by
  have hshown : (([] ++ entries.map (shownEntry standIn)).map Prod.fst).Nodup := by
    have hmap : (entries.map (shownEntry standIn)).map Prod.fst =
        (entries.map Prod.fst).map (RawText.shown standIn) := by
      rw [List.map_map, List.map_map]
      rfl
    rw [List.nil_append, hmap]
    apply hkeys.map_on
    intro key hkey other hother h
    obtain ⟨entry, hentry, rfl⟩ := List.mem_map.1 hkey
    obtain ⟨another, hanother, rfl⟩ := List.mem_map.1 hother
    exact RawText.shown_inj hdistinct (hspared entry hentry) (hspared another hanother) h
  exact congrArg Document.object (shownEntries_of_nodup hshown)

end RawDocument

/-! ## Characters for private use -/

namespace CodePoint

/-- A character for private use, another for every surrogate. -/
def privateUse (offset : Fin 0x800) : Char :=
  Char.ofNat (0xF0000 + offset)

theorem toNat_privateUse (offset : Fin 0x800) : (privateUse offset).toNat = 0xF0000 + offset := by
  have hvalid : (0xF0000 + offset.val).isValidChar := .inr (by omega)
  exact Text.Utf8.toNat_val_ofNat hvalid

theorem privateUse_injective : Function.Injective privateUse := by
  intro offset other h
  have hnat := congrArg Char.toNat h
  rw [toNat_privateUse, toNat_privateUse] at hnat
  exact Fin.ext (Nat.add_left_cancel hnat)

theorem isBlank_shown_privateUse (point : CodePoint) :
    Text.isBlank (point.shown privateUse) = point.isBlank := by
  cases point with
  | character c => rfl
  | surrogate offset =>
      have hbare : ¬ Text.isBlank (privateUse offset) = true := by
        intro hblank
        have hsmall := Text.toNat_le_of_isBlank hblank
        rw [toNat_privateUse] at hsmall
        omega
      exact Bool.eq_false_iff.2 hbare

end CodePoint

/-- Blanks can be cut off before a text is shown or after. -/
theorem RawText.shown_trimmed (text : RawText) :
    text.trimmed.shown CodePoint.privateUse = Text.trimmed (text.shown CodePoint.privateUse) := by
  have hblank : Text.isBlank ∘ CodePoint.shown CodePoint.privateUse = CodePoint.isBlank :=
    funext CodePoint.isBlank_shown_privateUse
  rw [shown, shown, Text.trimmed, String.toList_ofList, trimmed, Text.trim]
  rw [Text.trimBy, Text.trimBy, List.dropWhile_map, ← List.map_reverse, List.dropWhile_map,
    ← List.map_reverse, hblank]

end KidsListing
