import KidsListing.Proofs.Document.Numeral
import Mathlib.Data.List.Chain

/-!
# Texts between quotes

A high surrogate with a low one right after it is never read, for the two make one
character.  Every text without such a pair can be written between quotes, with its
surrogates and with the quotes, backslashes and control characters in it escaped, and is
read back as it was.
-/

namespace KidsListing

namespace CodePoint

def IsHigh : CodePoint → Prop
  | .character _ => False
  | .surrogate offset => offset.val < 0x400

def IsLow : CodePoint → Prop
  | .character _ => False
  | .surrogate offset => 0x400 ≤ offset.val

end CodePoint

/-- No low surrogate comes right after a high one. -/
def RawText.Unpaired (text : RawText) : Prop :=
  text.IsChain fun point next => ¬ (point.IsHigh ∧ next.IsLow)

/-- No text within a raw document, keys apart, has a low surrogate right after a high one. -/
inductive RawDocument.Unpaired : RawDocument → Prop
  | null : Unpaired .null
  | bool (value : Bool) : Unpaired (.bool value)
  | int (value : Int) : Unpaired (.int value)
  | float (value : Binary64) : Unpaired (.float value)
  | text {value : RawText} (h : value.Unpaired) : Unpaired (.text value)
  | list {elements : List RawDocument} (h : ∀ x ∈ elements, Unpaired x) :
      Unpaired (.list elements)
  | object {entries : List (RawText × RawDocument)} (h : ∀ entry ∈ entries, Unpaired entry.2) :
      Unpaired (.object entries)

theorem RawText.unpaired_map_character (text : List Char) :
    Unpaired (text.map .character) := by
  rw [Unpaired, List.isChain_map]
  exact (List.pairwise_of_forall fun _ _ hpair => hpair.1).isChain

theorem RawText.unpaired_ofString (text : String) : (ofString text).Unpaired :=
  unpaired_map_character text.toList

end KidsListing

namespace KidsListing.Document.Reader

open KidsListing.Text (hexDigit?)
open KidsListing.RawText (Unpaired)
open characters (settle)

/-! ## What is read -/

theorem isHigh_ofUnit_iff {unit : Nat} :
    (CodePoint.ofUnit unit).IsHigh ↔ isHighSurrogate unit = true := by
  rw [CodePoint.ofUnit, isHighSurrogate, Bool.and_eq_true, decide_eq_true_eq, decide_eq_true_eq]
  split
  · simp only [CodePoint.IsHigh]
    omega
  · simp only [CodePoint.IsHigh, false_iff]
    omega

theorem isLow_ofUnit_iff {unit : Nat} :
    (CodePoint.ofUnit unit).IsLow ↔ isLowSurrogate unit = true := by
  rw [CodePoint.ofUnit, isLowSurrogate, Bool.and_eq_true, decide_eq_true_eq, decide_eq_true_eq]
  split
  · simp only [CodePoint.IsLow]
    omega
  · simp only [CodePoint.IsLow, false_iff]
    omega

theorem not_isLow_ofUnit {unit : Nat} (h : isHighSurrogate unit = true) :
    ¬ (CodePoint.ofUnit unit).IsLow := by
  rw [isHighSurrogate, Bool.and_eq_true, decide_eq_true_eq, decide_eq_true_eq] at h
  rw [isLow_ofUnit_iff, isLowSurrogate, Bool.and_eq_true, decide_eq_true_eq, decide_eq_true_eq]
  omega

theorem unpaired_reverse_cons_iff {point : CodePoint} {read : List CodePoint} :
    Unpaired (point :: read).reverse ↔
      (∀ last ∈ read.head?, ¬ (last.IsHigh ∧ point.IsLow)) ∧ Unpaired read.reverse := by
  rw [Unpaired, Unpaired, List.isChain_reverse, List.isChain_reverse, List.isChain_cons]

/-- What has been read holds no pair, and only the unit that may still be completed is a
high surrogate at its end. -/
structure Settled (read : List CodePoint) (high : Option Nat) : Prop where
  unpaired : Unpaired (settle read high).reverse
  last : high = none → ∀ point ∈ read.head?, ¬ point.IsHigh
  pending : ∀ unit ∈ high, isHighSurrogate unit = true

theorem settled_nil : Settled [] none :=
  ⟨List.IsChain.nil, nofun, nofun⟩

namespace Settled

variable {read : List CodePoint} {high : Option Nat}

theorem unpaired_read (h : Settled read high) : Unpaired read.reverse := by
  cases high with
  | none => exact h.unpaired
  | some unit => exact (unpaired_reverse_cons_iff.1 h.unpaired).2

/-- A point that is no surrogate leaves nothing to be completed. -/
theorem push (h : Unpaired read.reverse) {point : CodePoint} (hhigh : ¬ point.IsHigh)
    (hlow : ∀ last ∈ read.head?, last.IsHigh → ¬ point.IsLow) :
    Settled (point :: read) none where
  unpaired :=
    unpaired_reverse_cons_iff.2 ⟨fun last hlast hpair => hlow last hlast hpair.1 hpair.2, h⟩
  last := by
    rintro - last ⟨⟩
    exact hhigh
  pending := nofun

theorem character (h : Settled read high) (c : Char) :
    Settled (.character c :: settle read high) none :=
  push h.unpaired id fun _ _ _ => id

/-- A high surrogate waits for its other half. -/
theorem wait (h : Unpaired read.reverse) {unit : Nat} (hunit : isHighSurrogate unit = true) :
    Settled read (some unit) where
  unpaired := unpaired_reverse_cons_iff.2 ⟨fun _ _ hpair => not_isLow_ofUnit hunit hpair.2, h⟩
  last := nofun
  pending := by
    rintro _ ⟨⟩
    exact hunit

end Settled

theorem unpaired_of_characters {read : List CodePoint} {high : Option Nat}
    {input rest : List Char} {text : RawText} (h : Settled read high)
    (htext : characters read high input = .ok (text, rest)) : Unpaired text := by
  fun_induction characters read high input
  case case1 | case3 | case9 | case11 => cases htext
  case case2 =>
    cases htext
    exact h.unpaired
  case case4 ih => exact ih (.push h.unpaired_read id fun _ _ _ => id) htext
  case case5 hunit ih => exact ih (.wait h.unpaired hunit) htext
  case case6 hlow hhigh ih =>
    exact ih (.push h.unpaired (mt isHigh_ofUnit_iff.1 hhigh)
      fun _ _ _ => mt isLow_ofUnit_iff.1 hlow) htext
  case case7 hunit ih => exact ih (.wait h.unpaired hunit) htext
  case case8 hunit ih =>
    exact ih (.push h.unpaired (mt isHigh_ofUnit_iff.1 hunit)
      fun last hlast hhigh => absurd hhigh (h.last rfl last hlast)) htext
  case case10 ih => exact ih (h.character _) htext
  case case12 ih => exact ih (h.character _) htext

/-! ## What is written -/

/-- The escape of a unit by its number. -/
def unitEscape (unit : Nat) : List Char :=
  ['\\', 'u', Nat.digitChar (unit / 0x1000), Nat.digitChar (unit / 0x100 % 0x10),
    Nat.digitChar (unit / 0x10 % 0x10), Nat.digitChar (unit % 0x10)]

/-- A code point as it stands between quotes. -/
def escaped : CodePoint → List Char
  | .character c =>
      if c = '"' ∨ c = '\\' then ['\\', c]
      else if c.toNat < 0x20 then unitEscape c.toNat
      else [c]
  | .surrogate offset => unitEscape (0xD800 + offset)

def quotedText (text : RawText) : List Char :=
  '"' :: (text.flatMap escaped ++ ['"'])

theorem hexDigit?_digitChar : ∀ digit < 0x10, hexDigit? (Nat.digitChar digit) = some digit := by
  decide

theorem hexUnit?_digitChars {unit : Nat} (h : unit < 0x10000) :
    hexUnit? (Nat.digitChar (unit / 0x1000)) (Nat.digitChar (unit / 0x100 % 0x10))
      (Nat.digitChar (unit / 0x10 % 0x10)) (Nat.digitChar (unit % 0x10)) = some unit := by
  have hfirst : unit / 0x1000 < 0x10 := by omega
  have hdigit (n : Nat) : n % 0x10 < 0x10 := Nat.mod_lt n (by decide)
  rw [hexUnit?, hexDigit?_digitChar _ hfirst, hexDigit?_digitChar _ (hdigit _),
    hexDigit?_digitChar _ (hdigit _), hexDigit?_digitChar _ (hdigit _)]
  have hvalue : ((unit / 0x1000 * 0x10 + unit / 0x100 % 0x10) * 0x10 + unit / 0x10 % 0x10) * 0x10 +
      unit % 0x10 = unit := by omega
  exact congrArg some hvalue

theorem ofUnit_toNat {c : Char} (h : c.toNat < 0x20) :
    CodePoint.ofUnit c.toNat = .character c := by
  rw [CodePoint.ofUnit, dif_neg (by omega), Char.ofNat_toNat]

theorem ofUnit_surrogate (offset : Fin 0x800) :
    CodePoint.ofUnit (0xD800 + offset) = .surrogate offset := by
  rw [CodePoint.ofUnit, dif_pos (by omega)]
  exact congrArg CodePoint.surrogate (Fin.ext (Nat.add_sub_cancel_left ..))

/-- The escape of a unit that completes nothing adds this unit. -/
theorem characters_unitEscape {unit : Nat} (hunit : unit < 0x10000) (read : List CodePoint)
    {high : Option Nat} (h : high.isSome → ¬ (CodePoint.ofUnit unit).IsLow) (rest : List Char) :
    ∃ read' high', characters read high (unitEscape unit ++ rest) = characters read' high' rest ∧
      settle read' high' = .ofUnit unit :: settle read high ∧
      (high'.isSome → (CodePoint.ofUnit unit).IsHigh) := by
  simp only [unitEscape, List.cons_append, List.nil_append]
  rw [characters, hexUnit?_digitChars hunit]
  cases high with
  | none =>
      by_cases hhigh : isHighSurrogate unit = true
      · exact ⟨read, some unit, if_pos hhigh, rfl, fun _ => isHigh_ofUnit_iff.2 hhigh⟩
      · exact ⟨_, none, if_neg hhigh, rfl, nofun⟩
  | some first =>
      have hlow : ¬ isLowSurrogate unit = true := mt isLow_ofUnit_iff.2 (h rfl)
      simp only [if_neg hlow]
      by_cases hhigh : isHighSurrogate unit = true
      · exact ⟨_, some unit, if_pos hhigh, rfl, fun _ => isHigh_ofUnit_iff.2 hhigh⟩
      · exact ⟨_, none, if_neg hhigh, rfl, nofun⟩

/-- However a code point is written, it is read as itself. -/
theorem characters_escaped (point : CodePoint) (read : List CodePoint) {high : Option Nat}
    (h : high.isSome → ¬ point.IsLow) (rest : List Char) :
    ∃ read' high', characters read high (escaped point ++ rest) = characters read' high' rest ∧
      settle read' high' = point :: settle read high ∧ (high'.isSome → point.IsHigh) := by
  cases point with
  | surrogate offset =>
      have hpoint := ofUnit_surrogate offset
      rw [← hpoint] at h ⊢
      rw [hpoint, escaped, ← hpoint]
      exact characters_unitEscape (by omega) read h rest
  | character c =>
      rw [escaped]
      split
      · rename_i hmark
        refine ⟨_, none, ?_, rfl, nofun⟩
        rcases hmark with rfl | rfl <;> rfl
      · rename_i hmark
        split
        · rename_i hcontrol
          rw [← ofUnit_toNat hcontrol] at h ⊢
          exact characters_unitEscape (by omega) read h rest
        · rename_i hprintable
          obtain ⟨hquote, hbackslash⟩ := not_or.1 hmark
          refine ⟨.character c :: settle read high, none, ?_, rfl, nofun⟩
          rw [List.singleton_append, characters]
          · rw [if_neg (not_or.2 ⟨hprintable, hbackslash⟩)]
          · exact hquote
          · exact fun _ _ _ _ _ h _ => hbackslash h
          · exact fun _ _ h _ => hbackslash h

theorem characters_flatMap_escaped {text : RawText} (htext : Unpaired text)
    (read : List CodePoint) {high : Option Nat}
    (h : high.isSome → ∀ point ∈ text.head?, ¬ point.IsLow) (rest : List Char) :
    characters read high (text.flatMap escaped ++ '"' :: rest) =
      .ok ((settle read high).reverse ++ text, rest) := by
  induction text generalizing read high with
  | nil =>
      rw [List.flatMap_nil, List.nil_append, List.append_nil, characters]
  | cons point text ih =>
      obtain ⟨hnext, htext⟩ := List.isChain_cons.1 htext
      obtain ⟨read', high', hread, hsettle, hhigh⟩ :=
        characters_escaped point read (fun hsome => h hsome point rfl)
          (text.flatMap escaped ++ '"' :: rest)
      have hafter : high'.isSome → ∀ next ∈ text.head?, ¬ next.IsLow :=
        fun hsome next hmem hlow => hnext next hmem ⟨hhigh hsome, hlow⟩
      rw [List.flatMap_cons, List.append_assoc, hread, ih htext read' hafter, hsettle,
        List.reverse_cons, List.append_assoc, List.singleton_append]

theorem characters_quotedText {text : RawText} (h : Unpaired text) (rest : List Char) :
    characters [] none (text.flatMap escaped ++ '"' :: rest) = .ok (text, rest) :=
  characters_flatMap_escaped h [] (fun hsome => absurd hsome (by decide)) rest

end KidsListing.Document.Reader
