import KidsListing.Proofs.Video.Clock
import KidsListing.Video.Fragment

/-!
# Writing clock notation

A number of seconds is written with its minutes or with its hours and minutes, and any
place may be padded with zeros.  As long as no place is longer than a numeral may be, every
writing is read back as the number; so the writings of two numbers are never read as the
same duration.
-/

namespace KidsListing.Duration

open KidsListing.Fragment (counted)
open KidsListing.Text (IsNumeral maxDigits)

/-- A number in decimal, with zeros in front of it up to a width. -/
def padded (width n : Nat) : List Char :=
  (Nat.toDigits 10 n).leftpad width '0'

/-- A number of seconds in clock notation, each place within the limit of a numeral.  The
usual writings have widths of one and two, or of one, two and two. -/
inductive Writing (n : Nat) : List Char → Prop
  | minutes {m s : Nat} (hm : (padded m (n / 60)).length ≤ maxDigits)
      (hs : (padded s (n % 60)).length ≤ maxDigits) :
      Writing n (padded m (n / 60) ++ ':' :: padded s (n % 60))
  | hours {h m s : Nat} (hh : (padded h (n / 3600)).length ≤ maxDigits)
      (hm : (padded m (n / 60 % 60)).length ≤ maxDigits)
      (hs : (padded s (n % 60)).length ≤ maxDigits) :
      Writing n (padded h (n / 3600) ++ ':' ::
        (padded m (n / 60 % 60) ++ ':' :: padded s (n % 60)))

theorem ofDigitChars_padded (width n : Nat) : Nat.ofDigitChars 10 (padded width n) 0 = n := by
  rw [padded, List.leftpad, Nat.ofDigitChars_append, Nat.ofDigitChars_replicate_zero,
    Nat.mul_zero, Nat.ofDigitChars_ten_toDigits]

theorem isNumeral_padded {width n : Nat} (h : (padded width n).length ≤ maxDigits) :
    IsNumeral (padded width n) := by
  refine ⟨?_, ?_, h⟩
  · exact List.append_ne_nil_of_right_ne_nil _ Nat.toDigits_ne_nil
  · rw [padded, List.leftpad, List.all_append, Bool.and_eq_true]
    refine ⟨Text.all_isDigit_replicate (by decide) _, List.all_eq_true.2 ?_⟩
    exact fun c hc => Nat.isDigit_of_mem_toDigits (by decide) (by decide) hc

/-- The places of a number of seconds add up to it. -/
theorem Writing.denotes {n : Nat} {text : List Char} (h : Writing n text) :
    Denotes text n := by
  cases h with
  | minutes hm hs =>
      have hdenotes := Denotes.minutes (isNumeral_padded hm) (isNumeral_padded hs)
      simp only [ofDigitChars_padded] at hdenotes
      have htotal : n / 60 * 60 + n % 60 = n := Nat.div_add_mod' n 60
      rwa [htotal] at hdenotes
  | hours hh hm hs =>
      have hdenotes := Denotes.hours (isNumeral_padded hh) (isNumeral_padded hm)
        (isNumeral_padded hs)
      simp only [ofDigitChars_padded] at hdenotes
      have htotal : n / 3600 * 3600 + n / 60 % 60 * 60 + n % 60 = n := by omega
      rwa [htotal] at hdenotes

theorem counted_parse?_of_denotes {text : List Char} {n : Nat} (h : Denotes text n) :
    counted (parse? text) = n := by
  rw [parse?_eq_some_iff.2 h, counted]

theorem counted_parse?_eq_neg_one_iff {text : List Char} :
    counted (parse? text) = -1 ↔ ¬ ∃ n, Denotes text n := by
  constructor
  · rintro hunknown ⟨n, hn⟩
    rw [counted_parse?_of_denotes hn] at hunknown
    cases hunknown
  · intro hnone
    have hparse : parse? text = none := by
      apply Option.eq_none_iff_forall_ne_some.2
      intro n hn
      exact hnone ⟨n, parse?_eq_some_iff.1 hn⟩
    rw [hparse, counted]

/-- The duration is unknown exactly for the texts that are no clock notation, and is the
number of seconds denoted for all others.  What is written of a number is read back as it,
so the writings of different numbers are read differently. -/
theorem parse?_inverts_clock :
    (∀ text, counted (parse? text) = -1 ↔ ¬ ∃ n, Denotes text n) ∧
      (∀ text n, Denotes text n → counted (parse? text) = n) ∧
      (∀ text n, Writing n text → counted (parse? text) = n) ∧
      ∀ text other n m, Writing n text → Writing m other →
        counted (parse? text) = counted (parse? other) → n = m := by
  have hwritten (text : List Char) (n : Nat) (h : Writing n text) :
      counted (parse? text) = n :=
    counted_parse?_of_denotes h.denotes
  refine ⟨fun _ => counted_parse?_eq_neg_one_iff, fun _ _ => counted_parse?_of_denotes,
    hwritten, ?_⟩
  intro text other n m hn hm hequal
  rw [hwritten text n hn, hwritten other m hm] at hequal
  exact Int.ofNat.inj hequal

theorem parse?_inverts_padded :
    Writing 3725 "01:02:005".toList ∧ counted (parse? "01:02:005".toList) = 3725 := by
  have hwriting : Writing 3725 "01:02:005".toList :=
    .hours (h := 2) (m := 2) (s := 3) (by decide) (by decide) (by decide)
  exact ⟨hwriting, parse?_inverts_clock.2.2.1 _ _ hwriting⟩

end KidsListing.Duration
