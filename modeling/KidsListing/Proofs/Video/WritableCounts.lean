import KidsListing.Proofs.Video.Clock
import KidsListing.Proofs.Video.ExactCount
import KidsListing.Proofs.Video.Keys

/-!
# Which numbers of a video can be written

A numeral is bounded when it is read, but a duration grows by sixty for each numeral
that comes after it, and a view count by its magnitude.  A text is oversized when the
number that it stands for has too many digits in the end.  No oversized text gives a
number that can be written, and every other text gives one or none at all.
-/

namespace KidsListing.Duration

open KidsListing.Text (maxDigits ofDigits)

/-- A text in clock notation denotes too many seconds. -/
def Oversized (text : List Char) : Prop :=
  ∃ n, Denotes text n ∧ Nat.pow 10 maxDigits ≤ n

theorem parse?_lt_pow_iff {text : List Char} :
    (∀ n, parse? text = some n → n < Nat.pow 10 maxDigits) ↔ ¬ Oversized text := by
  simp only [parse?_eq_some_iff, Oversized, not_exists, not_and, Nat.not_le]

/-- So many minutes, in nines. -/
def minutes (n : Nat) : List Char :=
  List.replicate n '9' ++ [':', '0', '0']

theorem isNumeral_nines {n : Nat} (hsome : 0 < n) (hlimit : n ≤ maxDigits) :
    Text.IsNumeral (List.replicate n '9') := by
  refine ⟨?_, Text.all_isDigit_replicate (by decide) n, ?_⟩
  · exact List.ne_nil_of_length_pos (by rwa [List.length_replicate])
  · rwa [List.length_replicate]

/-- As many minutes as can be read are too many seconds. -/
theorem oversized_minutes : Oversized (minutes maxDigits) := by
  have hnumeral := isNumeral_nines (n := maxDigits) (by decide) (Nat.le_refl _)
  refine ⟨_, .minutes hnumeral ⟨by decide, by decide, by decide⟩, ?_⟩
  obtain ⟨limit, hlimit⟩ : ∃ limit, maxDigits = limit + 1 := ⟨4299, rfl⟩
  have hminutes : Nat.pow 10 limit ≤ ofDigits (List.replicate maxDigits '9') :=
    Text.pow_le_ofDigits_nines (by rw [hlimit]; exact Nat.lt_succ_self limit)
  calc
    Nat.pow 10 maxDigits = Nat.pow 10 limit * 10 := by rw [hlimit]; rfl
    _ ≤ ofDigits (List.replicate maxDigits '9') * 60 := Nat.mul_le_mul hminutes (by decide)
    _ = Nat.ofDigitChars 10 (List.replicate maxDigits '9') 0 * 60 := by
      rw [Text.ofDigits_eq_ofDigitChars]
    _ ≤ _ := Nat.le_add_right _ _

end KidsListing.Duration

namespace KidsListing.ViewCount

open KidsListing.Text (isDigit maxDigits ofDigits)

/-- The magnitude makes the number of a text too large. -/
def Oversized (text : List Char) : Prop :=
  ∃ m : Magnitude, m.Governs text ∧ IsDecimal (text.filter isNumeric) ∧
    (10 : ℚ) ^ maxDigits ≤ rational (text.filter isNumeric) * 10 ^ m.power

theorem scaled_nonneg (numeric : List Char) (power : Nat) :
    0 ≤ rational numeric * 10 ^ power :=
  mul_nonneg (div_nonneg (Nat.cast_nonneg _) (pow_nonneg (by decide) _))
    (pow_nonneg (by decide) _)

theorem floor_lt_pow_iff {q : ℚ} (h : 0 ≤ q) (n : ℕ) : ⌊q⌋₊ < Nat.pow 10 n ↔ q < 10 ^ n := by
  rw [Nat.floor_lt h, Nat.pow_eq, Nat.cast_pow, Nat.cast_ofNat]

section Digits

variable {numeric : List Char} (hnumeric : ∀ c ∈ numeric, isNumeric c)

include hnumeric

/-- A count that is refused has far more digits than can be written. -/
theorem pow_le_scaled (hdecimal : IsDecimal numeric) {power : Nat}
    (h : maxScaledDigits < ((shifted power numeric).dropWhile (· == '0')).length) :
    (10 : ℚ) ^ maxDigits ≤ rational numeric * 10 ^ power := by
  have hplaces := ((isDecimal_iff hnumeric).1 hdecimal).1
  have hlong : maxDigits ≤ maxScaledDigits := by decide
  have hlarge : Nat.pow 10 maxDigits ≤ ofDigits (shifted power numeric) :=
    Text.pow_le_ofDigits (all_isDigit_shifted hnumeric hplaces power)
      (Nat.lt_of_le_of_lt hlong h)
  rw [ofDigits_shifted_eq_floor hnumeric hplaces, ← Nat.not_lt,
    floor_lt_pow_iff (scaled_nonneg numeric power)] at hlarge
  exact not_lt.1 hlarge

theorem scaled?_lt_pow_iff (power : Nat) :
    (∃ count, scaled? power numeric = .ok count ∧
        ∀ n, count = some n → n < Nat.pow 10 maxDigits) ↔
      ¬ (IsDecimal numeric ∧ (10 : ℚ) ^ maxDigits ≤ rational numeric * 10 ^ power) := by
  rw [scaled?_eq_ite hnumeric]
  by_cases hdecimal : IsDecimal numeric
  · rw [if_pos hdecimal, and_iff_right hdecimal, not_le]
    by_cases hrefused : maxScaledDigits < ((shifted power numeric).dropWhile (· == '0')).length
    · rw [if_pos hrefused]
      have hlarge := pow_le_scaled hnumeric hdecimal hrefused
      exact iff_of_false nofun (not_lt.2 hlarge)
    · rw [if_neg hrefused, ← floor_lt_pow_iff (scaled_nonneg numeric power)]
      constructor
      · rintro ⟨_, ⟨⟩, hsmall⟩
        exact hsmall _ rfl
      · intro hsmall
        refine ⟨_, rfl, ?_⟩
        rintro _ ⟨⟩
        exact hsmall
  · rw [if_neg hdecimal]
    exact iff_of_true ⟨none, rfl, nofun⟩ fun h => hdecimal h.1

end Digits

theorem Magnitude.Governs.unique {m other : Magnitude} {text : List Char}
    (h : m.Governs text) (hother : other.Governs text) : other = m := by
  have hfound := magnitude?_eq_some_iff.2 h
  rw [magnitude?_eq_some_iff.2 hother] at hfound
  exact Option.some.inj hfound

theorem parse_lt_pow_iff {text : List Char} :
    (∃ count, parse text = .ok count ∧ ∀ n, count = some n → n < Nat.pow 10 maxDigits) ↔
      ¬ Oversized text := by
  cases hmagnitude : magnitude? text with
  | none =>
      have hnone := magnitude?_eq_none_iff.1 hmagnitude
      rw [parse_of_not_written hnone]
      apply iff_of_true
      · exact ⟨_, rfl, fun n hn => Text.lt_pow_of_natural? hn⟩
      · rintro ⟨m, hm, -⟩
        exact hnone m hm.1
  | some m =>
      have hm := magnitude?_eq_some_iff.1 hmagnitude
      rw [parse_of_governs hm, scaled?_lt_pow_iff (isNumeric_of_mem_filter text), Oversized]
      apply not_congr
      constructor
      · intro h
        exact ⟨m, hm, h⟩
      · rintro ⟨other, hother, h⟩
        rwa [hm.unique hother] at h

/-- What is refused is too large by far. -/
theorem oversized_of_refused {text : List Char} (h : Refused text) : Oversized text := by
  by_contra hsmall
  obtain ⟨count, hparse, -⟩ := parse_lt_pow_iff.2 hsmall
  cases h.symm.trans hparse

/-! ## Plain digits -/

section Plain

variable {digits : List Char} (h : digits.all isDigit)

include h

theorem isDecimal_of_all_isDigit (hsome : digits ≠ []) : IsDecimal digits := by
  have hpoint : '.' ∉ digits := fun hmem => bne_iff_ne.1 (bne_point_of_all_isDigit h _ hmem) rfl
  constructor
  · rw [List.countP_eq_length.2 (List.all_eq_true.1 h)]
    exact List.length_pos_iff.2 hsome
  · rw [List.count_eq_zero.2 hpoint]
    exact Nat.zero_le 1

theorem rational_of_all_isDigit : rational digits = ofDigits digits := by
  have hwhole : decimals digits = 0 := by
    rw [decimals, dropWhile_of_all_isDigit h]
    rfl
  rw [rational, hwhole, pow_zero, div_one, List.filter_eq_self.2 (List.all_eq_true.1 h),
    ← Text.ofDigits_eq_ofDigitChars]

end Plain

/-- More thousands than there may be of plain digits are too many. -/
theorem oversized_thousands {n : Nat} (h : maxDigits < n) : Oversized (thousands n) := by
  have hdigits : (List.replicate n '9').all isDigit := Text.all_isDigit_replicate (by decide) n
  have hsome : List.replicate n '9' ≠ [] :=
    List.ne_nil_of_length_pos (by rw [List.length_replicate]; exact Nat.zero_lt_of_lt h)
  have hlarge := Text.pow_le_ofDigits_nines h
  rw [Nat.pow_eq, ← Nat.cast_le (α := ℚ), Nat.cast_pow, Nat.cast_ofNat] at hlarge
  refine ⟨.thousand, magnitude?_eq_some_iff.1 (magnitude?_thousands n), ?_⟩
  rw [filter_thousands, rational_of_all_isDigit hdigits]
  refine ⟨isDecimal_of_all_isDigit hdigits hsome, hlarge.trans ?_⟩
  exact le_mul_of_one_le_right (Nat.cast_nonneg _) (one_le_pow₀ (by decide))

end KidsListing.ViewCount

namespace KidsListing.Video

open KidsListing.Document (Writable written_int)

theorem written_nullable (value : Option String) : (nullable value).Written := by
  cases value with
  | none => exact Document.readable_written.null
  | some value => exact Document.written_text value

/-- All that may fail to be written in the public form of a video are its numbers. -/
theorem written_toDocument_iff {v : Video} :
    v.toDocument.Written ↔
      Writable v.durationSeconds ∧ Writable v.viewCount ∧ Writable v.uploadedTimestamp := by
  simp only [toDocument, Document.written_object, List.forall_mem_cons, Document.written_text,
    Document.written_bool, written_nullable, written_int, true_and, and_true, List.not_mem_nil,
    false_implies, implies_true]

end KidsListing.Video

namespace KidsListing.SearchPage

theorem written_toDocument_iff {page : SearchPage} :
    page.toDocument.Written ↔ ∀ v ∈ page.items, v.toDocument.Written := by
  simp only [toDocument, Document.written_object, Document.written_list, List.forall_mem_cons,
    List.forall_mem_map, Video.written_nullable, Document.written_bool, and_true,
    List.not_mem_nil, false_implies, implies_true]

end KidsListing.SearchPage

namespace KidsListing.Fragment

open KidsListing.Document (Writable)
open KidsListing.Text (maxDigits)

theorem writable_neg_one : Writable (-1) := by
  rw [Writable, Nat.pow_eq]
  exact Nat.one_lt_pow (by decide) (by decide)

theorem writable_counted_iff {count : Option Nat} :
    Writable (counted count) ↔ ∀ n, count = some n → n < Nat.pow 10 maxDigits := by
  cases count with
  | none => exact iff_of_true writable_neg_one nofun
  | some n =>
      constructor
      · rintro h _ ⟨⟩
        exact h
      · intro h
        exact h n rfl

/-- Unknown, or a number of no more digits than can be written. -/
def Bounded (value : Int) : Prop :=
  value = -1 ∨ ∃ n : Nat, value = n ∧ (Nat.toDigits 10 n).length ≤ maxDigits

theorem bounded_counted_iff {count : Option Nat} :
    Bounded (counted count) ↔ ∀ n, count = some n → n < Nat.pow 10 maxDigits := by
  have hdigits (n : Nat) :
      (Nat.toDigits 10 n).length ≤ maxDigits ↔ n < Nat.pow 10 maxDigits := by
    have hlimit : 0 < maxDigits := by decide
    rw [Nat.pow_eq, Nat.length_toDigits_le_iff (by decide) hlimit]
  simp only [Bounded, hdigits]
  cases count with
  | none => exact iff_of_true (.inl rfl) nofun
  | some n =>
      constructor
      · rintro (hunknown | ⟨_, ⟨⟩, hsmall⟩) _ ⟨⟩
        · cases hunknown
        · exact hsmall
      · intro h
        exact .inr ⟨n, rfl, h n rfl⟩

/-- A video that was read off a document can be written when neither of the two texts
that its numbers come from is oversized. -/
theorem ReadOff.written_iff {d : Document} {v : Video} (h : ReadOff d v) :
    ∃ length views,
      (d.step "lengthText").label = .ok length ∧ (d.step "viewCountText").label = .ok views ∧
        (v.toDocument.Written ↔
          ¬ Duration.Oversized length.toList ∧ ¬ ViewCount.Oversized views.toList) := by
  obtain ⟨length, hlength, hduration⟩ := map_eq_ok h.durationSeconds
  obtain ⟨views, hviews, hcount⟩ := bind_eq_ok h.viewCount
  obtain ⟨count, hparse, hvalue⟩ := map_eq_ok hcount
  refine ⟨length, views, hlength, hviews, ?_⟩
  have htimestamp : Writable v.uploadedTimestamp := by
    rw [h.uploadedTimestamp]
    exact writable_neg_one
  have hcount : Writable v.viewCount ↔ ¬ ViewCount.Oversized views.toList := by
    rw [← hvalue, writable_counted_iff, ← ViewCount.parse_lt_pow_iff]
    constructor
    · intro hsmall
      exact ⟨count, hparse, hsmall⟩
    · rintro ⟨other, hother, hsmall⟩
      rwa [Except.ok.inj (hparse.symm.trans hother)]
  rw [Video.written_toDocument_iff, hcount, ← hduration, writable_counted_iff,
    Duration.parse?_lt_pow_iff, and_iff_left htimestamp]

/-- The numbers of a text are bounded unless it is oversized, and so are those of a video
unless one of its texts is. -/
theorem numbers_bounded_iff (text : List Char) (d : Document) :
    (Bounded (counted (Duration.parse? text)) ↔ ¬ Duration.Oversized text) ∧
      ((∃ count, ViewCount.parse text = .ok count ∧ Bounded (counted count)) ↔
        ¬ ViewCount.Oversized text) ∧
      ∀ v, decode { content := d } = .item v →
        ∃ length views,
          (d.step "lengthText").label = .ok length ∧
            (d.step "viewCountText").label = .ok views ∧
            (v.toDocument.Written ↔
              ¬ Duration.Oversized length.toList ∧ ¬ ViewCount.Oversized views.toList) := by
  refine ⟨?_, ?_, ?_⟩
  · rw [bounded_counted_iff, Duration.parse?_lt_pow_iff]
  · simp only [bounded_counted_iff, ViewCount.parse_lt_pow_iff]
  · intro v hitem
    exact (readOff_of_decode hitem).written_iff

/-- A fragment with numbers that can be written. -/
def played : Document :=
  .object [
    ("videoId", .text "a"),
    ("lengthText", .object [("simpleText", .text "1:05")]),
    ("viewCountText", .object [("simpleText", .text "1.2M views")])]

theorem numbers_bounded_played :
    ∃ v, decode { content := played } = .item v ∧ v.toDocument.Written := by
  refine ⟨_, rfl, ?_⟩
  have hduration := (numbers_bounded_iff "1:05".toList played).1
  obtain ⟨-, hcount, hitem⟩ := numbers_bounded_iff "1.2M views".toList played
  obtain ⟨length, views, hlength, hviews, hwritten⟩ := hitem _ rfl
  cases hlength
  cases hviews
  apply hwritten.2
  constructor
  · exact hduration.1 (.inr ⟨65, rfl, by decide⟩)
  · exact hcount.1 ⟨some 1200000, rfl, .inr ⟨1200000, rfl, by decide⟩⟩

/-- Of the numbers that grow after they are read not all are bounded, and some are not
even read. -/
theorem numbers_unbounded :
    ¬ Bounded (counted (Duration.parse? (Duration.minutes 4300))) ∧
      (∃ count, ViewCount.parse (ViewCount.thousands 5000) = .ok count ∧
        ¬ Bounded (counted count)) ∧
      ViewCount.Refused (ViewCount.thousands 1000000) := by
  refine ⟨?_, ?_, ?_⟩
  · rw [bounded_counted_iff, Duration.parse?_lt_pow_iff, not_not]
    exact Duration.oversized_minutes
  · have hoversized : ViewCount.Oversized (ViewCount.thousands 5000) :=
      ViewCount.oversized_thousands (by decide)
    have hparsed : ∃ count, ViewCount.parse (ViewCount.thousands 5000) = .ok count := by
      apply ViewCount.parse_ok
      rw [ViewCount.countP_isDigit_thousands]
      decide
    obtain ⟨count, hparse⟩ := hparsed
    refine ⟨count, hparse, ?_⟩
    intro hbounded
    exact ViewCount.parse_lt_pow_iff.1 ⟨count, hparse, bounded_counted_iff.1 hbounded⟩ hoversized
  · exact ViewCount.refused_thousands (by decide)

end KidsListing.Fragment
