import KidsListing.Proofs.Video.ViewCount
import Mathlib.Algebra.Order.Floor.Semifield
import Mathlib.Algebra.Order.Field.Rat
import Mathlib.Data.Rat.Floor

/-!
# Exact view counts

The digits and points of a text denote a rational number when there is a digit and at
most one point among them.  With a magnitude the view count is the floor of this number
times the magnitude, however many digits there are on either side of the point; without
one it is what the digits alone spell.  All other characters but the letters of the
magnitudes can come and go without a change.
-/

namespace KidsListing.ViewCount

open KidsListing.Text (isDigit natural? ofDigits maxDigits)

/-! ## Which magnitude counts -/

/-- One of the letters of a magnitude is in a text. -/
def Magnitude.WrittenIn (m : Magnitude) (text : List Char) : Prop :=
  ∃ c ∈ text, c ∈ m.letters

/-- Of the magnitudes that are written in a text the least one counts. -/
def Magnitude.Governs (m : Magnitude) (text : List Char) : Prop :=
  m.WrittenIn text ∧ ∀ other : Magnitude, other.WrittenIn text → m.power ≤ other.power

theorem thousand_writtenIn_iff {text : List Char} :
    Magnitude.thousand.WrittenIn text ↔ 'k' ∈ text ∨ 'K' ∈ text ∨ '\u212A' ∈ text := by
  simp [Magnitude.WrittenIn, Magnitude.letters, and_or_left, exists_or]

theorem million_writtenIn_iff {text : List Char} :
    Magnitude.million.WrittenIn text ↔ 'm' ∈ text ∨ 'M' ∈ text := by
  simp [Magnitude.WrittenIn, Magnitude.letters, and_or_left, exists_or]

theorem billion_writtenIn_iff {text : List Char} :
    Magnitude.billion.WrittenIn text ↔ 'b' ∈ text ∨ 'B' ∈ text := by
  simp [Magnitude.WrittenIn, Magnitude.letters, and_or_left, exists_or]

theorem any_letters_iff {m : Magnitude} {text : List Char} :
    (text.any fun c => m.letters.contains c) ↔ m.WrittenIn text := by
  simp only [List.any_eq_true, List.contains_iff_mem, Magnitude.WrittenIn]

theorem Magnitude.mem_all (m : Magnitude) : m ∈ Magnitude.all := by
  cases m <;> decide

theorem Magnitude.pairwise_all : Magnitude.all.Pairwise fun m n => m.power < n.power := by
  decide

theorem magnitude?_eq_none_iff {text : List Char} :
    magnitude? text = none ↔ ∀ m : Magnitude, ¬ m.WrittenIn text := by
  simp only [magnitude?, List.find?_eq_none, any_letters_iff]
  exact ⟨fun h m => h m m.mem_all, fun h m _ => h m⟩

theorem governs_of_magnitude? {text : List Char} {m : Magnitude}
    (h : magnitude? text = some m) : m.Governs text := by
  obtain ⟨hwritten, before, after, hall, hnone⟩ := List.find?_eq_some_iff_append.1 h
  refine ⟨any_letters_iff.1 hwritten, ?_⟩
  intro other hother
  have hordered := Magnitude.pairwise_all
  have hmem := other.mem_all
  rw [hall] at hordered hmem
  rcases List.mem_append.1 hmem with hbefore | hafter
  · have hnot := hnone other hbefore
    rw [Bool.not_eq_true', ← Bool.not_eq_true, any_letters_iff] at hnot
    exact absurd hother hnot
  · rcases List.mem_cons.1 hafter with rfl | hafter
    · exact Nat.le_refl _
    · have hrest := (List.pairwise_append.1 hordered).2.1
      exact Nat.le_of_lt ((List.pairwise_cons.1 hrest).1 other hafter)

theorem Magnitude.eq_of_power_eq {m n : Magnitude} (h : m.power = n.power) : m = n := by
  cases m <;> cases n <;> first | rfl | cases h

theorem magnitude?_eq_some_iff {text : List Char} {m : Magnitude} :
    magnitude? text = some m ↔ m.Governs text := by
  refine ⟨governs_of_magnitude?, ?_⟩
  intro hgoverns
  cases hfound : magnitude? text with
  | none => exact absurd hgoverns.1 (magnitude?_eq_none_iff.1 hfound m)
  | some n =>
      have hn := governs_of_magnitude? hfound
      rw [Magnitude.eq_of_power_eq
        (Nat.le_antisymm (hn.2 m hgoverns.1) (hgoverns.2 n hn.1))]

/-! ## The number before and after the point -/

/-- There is a digit and at most one point. -/
def IsDecimal (numeric : List Char) : Prop :=
  0 < numeric.countP isDigit ∧ numeric.count '.' ≤ 1

instance (numeric : List Char) : Decidable (IsDecimal numeric) :=
  inferInstanceAs (Decidable (_ ∧ _))

/-- The number of digits that stand after the point. -/
def decimals (numeric : List Char) : Nat :=
  (numeric.dropWhile (· != '.')).countP isDigit

/-- The rational number that digits with at most one point denote. -/
def rational (numeric : List Char) : ℚ :=
  Nat.ofDigitChars 10 (numeric.filter isDigit) 0 / 10 ^ decimals numeric

def units (numeric : List Char) : List Char :=
  numeric.takeWhile (· != '.')

def places (numeric : List Char) : List Char :=
  (numeric.dropWhile (· != '.')).drop 1

/-- The digits of the whole part once the point is moved to the right. -/
def shifted (power : Nat) (numeric : List Char) : List Char :=
  units numeric ++ (places numeric ++ List.replicate power '0').take power

theorem scaled?_eq (power : Nat) (numeric : List Char) :
    scaled? power numeric =
      if (places numeric).contains '.' || ((units numeric).isEmpty && (places numeric).isEmpty)
      then .ok none
      else if maxScaledDigits < ((shifted power numeric).dropWhile (· == '0')).length then
        .error (.defect .countTooLarge)
      else .ok (some (ofDigits (shifted power numeric))) :=
  rfl

theorem point_not_mem_units (numeric : List Char) : '.' ∉ units numeric := by
  intro hmem
  have hpoint := List.mem_takeWhile_imp hmem
  exact absurd hpoint (by decide)

/-- There is no point, or the first one stands between the units and the places. -/
theorem units_places (numeric : List Char) :
    (numeric.dropWhile (· != '.') = [] ∧ numeric = units numeric ∧ places numeric = []) ∨
      (numeric.dropWhile (· != '.') = '.' :: places numeric ∧
        numeric = units numeric ++ '.' :: places numeric) := by
  have hsplit : units numeric ++ numeric.dropWhile (· != '.') = numeric :=
    List.takeWhile_append_dropWhile
  cases hrest : numeric.dropWhile (· != '.') with
  | nil =>
      left
      rw [hrest, List.append_nil] at hsplit
      exact ⟨rfl, hsplit.symm, by rw [places, hrest]; rfl⟩
  | cons c rest =>
      right
      have hc : c = '.' := by
        have hhead := List.head?_dropWhile_not (· != '.') numeric
        rw [hrest] at hhead
        simpa using hhead
      have hplaces : places numeric = rest := by
        rw [places, hrest]
        rfl
      rw [hplaces, ← hc]
      rw [hrest] at hsplit
      exact ⟨rfl, hsplit.symm⟩

section Digits

variable {numeric : List Char} (hnumeric : ∀ c ∈ numeric, isNumeric c)

include hnumeric

theorem all_isDigit_units : (units numeric).all isDigit :=
  List.all_eq_true.2 (isDigit_of_mem_takeWhile hnumeric)

theorem all_isDigit_places (hplaces : '.' ∉ places numeric) :
    (places numeric).all isDigit := by
  rw [List.all_eq_true]
  intro c hc
  have hsome : c ∈ numeric :=
    (List.dropWhile_sublist _).subset ((List.drop_sublist 1 _).subset hc)
  exact isDigit_of_isNumeric (hnumeric c hsome) fun heq => hplaces (heq ▸ hc)

theorem all_isDigit_padded (hplaces : '.' ∉ places numeric) (power : Nat) :
    (places numeric ++ List.replicate power '0').all isDigit := by
  rw [List.all_append, all_isDigit_places hnumeric hplaces,
    Text.all_isDigit_replicate (by decide)]
  rfl

theorem all_isDigit_shifted (hplaces : '.' ∉ places numeric) (power : Nat) :
    (shifted power numeric).all isDigit := by
  rw [shifted, List.all_append, all_isDigit_units hnumeric, Bool.true_and, List.all_eq_true]
  intro c hc
  exact List.all_eq_true.1 (all_isDigit_padded hnumeric hplaces power) c
    ((List.take_sublist _ _).subset hc)

theorem filter_isDigit_eq (hplaces : '.' ∉ places numeric) :
    numeric.filter isDigit = units numeric ++ places numeric := by
  have hunits := List.filter_eq_self.2 (List.all_eq_true.1 (all_isDigit_units hnumeric))
  have hdigits :=
    List.filter_eq_self.2 (List.all_eq_true.1 (all_isDigit_places hnumeric hplaces))
  have hpoint : isDigit '.' = false := by decide
  rcases units_places numeric with ⟨-, hwhole, hnone⟩ | ⟨-, hsplit⟩
  · rw [hnone, List.append_nil]
    conv_lhs => rw [hwhole, hunits]
  · conv_lhs => rw [hsplit]
    rw [List.filter_append, hunits, List.filter_cons_of_neg (by rw [hpoint]; exact nofun),
      hdigits]

theorem decimals_eq (hplaces : '.' ∉ places numeric) :
    decimals numeric = (places numeric).length := by
  have hdigits := List.countP_eq_length.2
    (List.all_eq_true.1 (all_isDigit_places hnumeric hplaces))
  have hpoint : isDigit '.' = false := by decide
  rcases units_places numeric with ⟨hrest, -, hnone⟩ | ⟨hrest, -⟩
  · rw [decimals, hrest, hnone]
    rfl
  · rw [decimals, hrest, List.countP_cons_of_neg (by rw [hpoint]; exact nofun), hdigits]

theorem isDecimal_iff :
    IsDecimal numeric ↔
      '.' ∉ places numeric ∧ ¬ (units numeric = [] ∧ places numeric = []) := by
  have hcount : numeric.count '.' ≤ 1 ↔ '.' ∉ places numeric := by
    have hunits : (units numeric).count '.' = 0 :=
      List.count_eq_zero.2 (point_not_mem_units numeric)
    rcases units_places numeric with ⟨-, hwhole, hnone⟩ | ⟨-, hsplit⟩
    · conv_lhs => rw [hwhole, hunits]
      simp [hnone]
    · conv_lhs => rw [hsplit]
      rw [List.count_append, hunits, List.count_cons_self, Nat.zero_add, ← List.count_eq_zero]
      omega
  rw [IsDecimal, hcount, and_comm]
  apply and_congr_right
  intro hplaces
  rw [List.countP_eq_length_filter, filter_isDigit_eq hnumeric hplaces, List.length_pos_iff,
    ne_eq, List.append_eq_nil_iff]

/-- Moving the point and cutting off the places is one division. -/
theorem ofDigits_shifted (hplaces : '.' ∉ places numeric) (power : Nat) :
    ofDigits (shifted power numeric) =
      Nat.pow 10 power * ofDigits (numeric.filter isDigit) / Nat.pow 10 (decimals numeric) := by
  let padded := places numeric ++ List.replicate power '0'
  have hcut : (padded.drop power).all isDigit :=
    List.all_eq_true.2 fun c hc => List.all_eq_true.1
      (all_isDigit_padded hnumeric hplaces power) c ((List.drop_sublist _ _).subset hc)
  have hlength : (padded.drop power).length = decimals numeric := by
    rw [List.length_drop, List.length_append, List.length_replicate, Nat.add_sub_cancel,
      decimals_eq hnumeric hplaces]
  calc
    ofDigits (shifted power numeric) =
        ofDigits (shifted power numeric ++ padded.drop power) /
          Nat.pow 10 (padded.drop power).length := (Text.ofDigits_append_div hcut _).symm
    _ = ofDigits (units numeric ++ places numeric ++ List.replicate power '0') /
          Nat.pow 10 (decimals numeric) := by
      rw [hlength, shifted, List.append_assoc, List.take_append_drop, ← List.append_assoc]
    _ = Nat.pow 10 power * ofDigits (numeric.filter isDigit) /
          Nat.pow 10 (decimals numeric) := by
      rw [Text.ofDigits_append_zeros, filter_isDigit_eq hnumeric hplaces]

/-- No digit is rounded. -/
theorem ofDigits_shifted_eq_floor (hplaces : '.' ∉ places numeric) (power : Nat) :
    ofDigits (shifted power numeric) = ⌊rational numeric * 10 ^ power⌋₊ := by
  rw [ofDigits_shifted hnumeric hplaces, rational, ← Text.ofDigits_eq_ofDigitChars,
    div_mul_eq_mul_div, mul_comm, ← Nat.floor_div_eq_div (K := ℚ), Nat.pow_eq, Nat.pow_eq]
  push_cast
  rfl

/-- A number with a magnitude is its floor once scaled, unless that is refused. -/
theorem scaled?_eq_ite (power : Nat) :
    scaled? power numeric =
      if IsDecimal numeric then
        if maxScaledDigits < ((shifted power numeric).dropWhile (· == '0')).length then
          .error (.defect .countTooLarge)
        else .ok (some ⌊rational numeric * 10 ^ power⌋₊)
      else .ok none := by
  have hdecimal := isDecimal_iff hnumeric
  rw [scaled?_eq]
  by_cases h : IsDecimal numeric
  · obtain ⟨hplaces, hsome⟩ := hdecimal.1 h
    rw [if_pos h, if_neg (by simpa [hplaces] using hsome),
      ofDigits_shifted_eq_floor hnumeric hplaces]
  · rw [if_neg h, if_pos]
    simpa [hdecimal, or_iff_not_imp_left] using h

end Digits

/-! ## Whole texts -/

theorem isNumeric_of_mem_filter (text : List Char) :
    ∀ c ∈ text.filter isNumeric, isNumeric c :=
  fun _ hc => (List.mem_filter.1 hc).2

theorem filter_isDigit_filter (text : List Char) :
    (text.filter isNumeric).filter isDigit = text.filter isDigit := by
  rw [List.filter_filter]
  apply List.filter_congr
  intro c _
  cases hc : isDigit c <;> simp [isNumeric, hc]

theorem parse_of_governs {text : List Char} {m : Magnitude} (h : m.Governs text) :
    parse text = scaled? m.power (text.filter isNumeric) := by
  simp only [parse, magnitude?_eq_some_iff.2 h]

theorem parse_of_not_written {text : List Char} (h : ∀ m : Magnitude, ¬ m.WrittenIn text) :
    parse text = .ok (natural? (text.filter isDigit)) := by
  simp only [parse, magnitude?_eq_none_iff.2 h, filter_isDigit_filter]

theorem natural?_filter_isDigit (text : List Char) :
    natural? (text.filter isDigit) =
      if text.countP isDigit = 0 ∨ maxDigits < text.countP isDigit then none
      else some (Nat.ofDigitChars 10 (text.filter isDigit) 0) := by
  have hdigits : (text.filter isDigit).all isDigit :=
    List.all_eq_true.2 fun _ hc => (List.mem_filter.1 hc).2
  rw [natural?, List.countP_eq_length_filter, Text.ofDigits_eq_ofDigitChars]
  by_cases hnone : text.filter isDigit = []
  · rw [if_neg fun h => h.1 hnone, if_pos (.inl (List.length_eq_zero_iff.2 hnone))]
  · by_cases hlong : maxDigits < (text.filter isDigit).length
    · rw [if_neg fun h => absurd hlong (Nat.not_lt.2 h.2.2), if_pos (.inr hlong)]
    · have hsome : ¬ (text.filter isDigit).length = 0 := mt List.length_eq_zero_iff.1 hnone
      rw [if_pos ⟨hnone, hdigits, Nat.not_lt.1 hlong⟩, if_neg (not_or.2 ⟨hsome, hlong⟩)]

/-- The characters that a count may depend on. -/
def counts (c : Char) : Bool :=
  isNumeric c || Magnitude.all.any fun m => m.letters.contains c

theorem writtenIn_filter_counts {m : Magnitude} {text : List Char} :
    m.WrittenIn (text.filter counts) ↔ m.WrittenIn text := by
  have hcounts {c : Char} (hc : c ∈ m.letters) : counts c := by
    rw [counts, Bool.or_eq_true, List.any_eq_true]
    exact .inr ⟨m, m.mem_all, List.contains_iff_mem.2 hc⟩
  constructor
  · intro h
    obtain ⟨c, hc, hletter⟩ := h
    exact ⟨c, (List.mem_filter.1 hc).1, hletter⟩
  · intro h
    obtain ⟨c, hc, hletter⟩ := h
    exact ⟨c, List.mem_filter.2 ⟨hc, hcounts hletter⟩, hletter⟩

theorem magnitude?_filter_counts (text : List Char) :
    magnitude? (text.filter counts) = magnitude? text := by
  apply Option.ext
  intro m
  rw [magnitude?_eq_some_iff, magnitude?_eq_some_iff, Magnitude.Governs, Magnitude.Governs]
  simp only [writtenIn_filter_counts]

/-- All other characters make no difference. -/
theorem parse_filter_counts (text : List Char) : parse (text.filter counts) = parse text := by
  have hnumeric : (text.filter counts).filter isNumeric = text.filter isNumeric := by
    rw [List.filter_filter]
    apply List.filter_congr
    intro c _
    cases hc : isNumeric c <;> simp [counts, hc]
  simp only [parse, magnitude?_filter_counts, hnumeric]

theorem parse_of_spelled {text : List Char} {n : Nat}
    (hshort : (Nat.toDigits 10 n).length ≤ maxDigits)
    (hdigits : text.filter isDigit = Nat.toDigits 10 n)
    (h : ∀ m : Magnitude, ¬ m.WrittenIn text) : parse text = .ok (some n) := by
  have hcount : text.countP isDigit = (Nat.toDigits 10 n).length := by
    rw [List.countP_eq_length_filter, hdigits]
  have hsome : 0 < (Nat.toDigits 10 n).length := Nat.length_toDigits_pos
  rw [parse_of_not_written h, natural?_filter_isDigit, if_neg, hdigits,
    Nat.ofDigitChars_ten_toDigits]
  omega

/-- A text with fewer digits than the limit, by as many as a magnitude can add, has the
scaled number that its digits and points denote. -/
theorem parse_of_governs_of_le {text : List Char} {m : Magnitude} (h : m.Governs text)
    (hcount : text.countP isDigit + 9 ≤ maxScaledDigits) :
    parse text = .ok (
      if IsDecimal (text.filter isNumeric) then
        some ⌊rational (text.filter isNumeric) * 10 ^ m.power⌋₊
      else none) := by
  obtain ⟨count, hparse⟩ := parse_ok hcount
  have hscaled := scaled?_eq_ite (isNumeric_of_mem_filter text) m.power
  rw [← parse_of_governs h] at hscaled
  rw [hscaled] at hparse ⊢
  split at hparse
  · rename_i hdecimal
    split at hparse
    · cases hparse
    · rename_i hsmall
      rw [if_pos hdecimal, if_neg hsmall, if_pos hdecimal]
  · rename_i hdecimal
    rw [if_neg hdecimal, if_neg hdecimal]

/-- What the view count of a text is. -/
structure Exact (text : List Char) : Prop where
  /-- With a magnitude it is the floor of the number, which is scaled without any
  rounding, and unknown when the digits and points are no number. -/
  scaled : ∀ m : Magnitude, m.Governs text →
    parse text = .ok (
      if IsDecimal (text.filter isNumeric) then
        some ⌊rational (text.filter isNumeric) * 10 ^ m.power⌋₊
      else none)
  /-- Without a magnitude it is what the digits spell, and unknown when there are none
  or too many. -/
  unscaled : (∀ m : Magnitude, ¬ m.WrittenIn text) →
    parse text = .ok (
      if text.countP isDigit = 0 ∨ maxDigits < text.countP isDigit then none
      else some (Nat.ofDigitChars 10 (text.filter isDigit) 0))
  /-- Other characters can be put in and taken out anywhere. -/
  unmoved : ∀ other : List Char, other.filter counts = text.filter counts →
    parse other = parse text
  /-- A number is read back however its digits are separated. -/
  spelled : ∀ n : Nat, (Nat.toDigits 10 n).length ≤ maxDigits →
    text.filter isDigit = Nat.toDigits 10 n → (∀ m : Magnitude, ¬ m.WrittenIn text) →
    parse text = .ok (some n)

/-- By its letters a text with a k, in either case or as the Kelvin sign, counts thousands,
one with an m but no k counts millions, and one with a b and neither counts billions. -/
theorem Exact.of_letters {text : List Char} (h : Exact text) :
    let count (power : Nat) : Except Fault (Option Nat) := .ok (
      if IsDecimal (text.filter isNumeric) then
        some ⌊rational (text.filter isNumeric) * 10 ^ power⌋₊
      else none)
    ('k' ∈ text ∨ 'K' ∈ text ∨ '\u212A' ∈ text → parse text = count 3) ∧
      (¬ ('k' ∈ text ∨ 'K' ∈ text ∨ '\u212A' ∈ text) →
        ('m' ∈ text ∨ 'M' ∈ text → parse text = count 6) ∧
        (¬ ('m' ∈ text ∨ 'M' ∈ text) →
          ('b' ∈ text ∨ 'B' ∈ text → parse text = count 9))) := by
  simp only [← thousand_writtenIn_iff, ← million_writtenIn_iff, ← billion_writtenIn_iff]
  refine ⟨?_, fun hthousand => ⟨?_, fun hmillion => ?_⟩⟩
  · intro hwritten
    refine h.scaled .thousand ⟨hwritten, ?_⟩
    intro other _
    cases other <;> decide
  · intro hwritten
    refine h.scaled .million ⟨hwritten, ?_⟩
    intro other hother
    cases other with
    | thousand => exact absurd hother hthousand
    | _ => decide
  · intro hwritten
    refine h.scaled .billion ⟨hwritten, ?_⟩
    intro other hother
    cases other with
    | thousand => exact absurd hother hthousand
    | million => exact absurd hother hmillion
    | billion => decide

/-- Every text has its exact view count, up to nearly a million digits. -/
theorem parse_exact {text : List Char} (h : text.countP isDigit ≤ 999990) : Exact text where
  scaled m hm := parse_of_governs_of_le hm (by rw [maxScaledDigits]; omega)
  unscaled hnone := by rw [parse_of_not_written hnone, natural?_filter_isDigit]
  unmoved other hother := by rw [← parse_filter_counts other, hother, parse_filter_counts]
  spelled n := parse_of_spelled

theorem countP_isDigit_thousands (n : Nat) : (thousands n).countP isDigit = n := by
  have hdigits : (List.replicate n '9').countP isDigit = n := by
    rw [List.countP_replicate, if_pos (by decide)]
  rw [thousands, List.countP_append, hdigits]
  rfl

/-- As many digits as there may be. -/
theorem parse_thousands_exact :
    (thousands 999990).countP isDigit ≤ 999990 ∧ Exact (thousands 999990) := by
  have hcount : (thousands 999990).countP isDigit ≤ 999990 :=
    Nat.le_of_eq (countP_isDigit_thousands 999990)
  exact ⟨hcount, parse_exact hcount⟩

example : parse ['.', '0', '5', 'x', 'm', '9'] = .ok (some 59000) := by decide

end KidsListing.ViewCount
