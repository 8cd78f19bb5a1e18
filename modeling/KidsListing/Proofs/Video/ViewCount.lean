import KidsListing.Proofs.Number.Positional
import KidsListing.Video.ViewCount
import Mathlib.Data.List.TakeWhile

/-!
# Which view counts are refused

Only a text with a magnitude letter and close to a million digits can have a
view count that is refused, and there are such texts.  The text of a number has
no such letter.
-/

namespace KidsListing.ViewCount

open KidsListing.Text (isDigit natural? spellsNumber)

theorem Magnitude.power_le_nine (m : Magnitude) : m.power ≤ 9 := by
  cases m <;> decide

theorem Magnitude.letters_not_spellsNumber (m : Magnitude) :
    m.letters.all fun c => !spellsNumber c := by
  cases m <;> rfl

theorem magnitude?_eq_none {text : List Char} (h : text.all spellsNumber) :
    magnitude? text = none := by
  rw [magnitude?, List.find?_eq_none]
  intro m _ hany
  obtain ⟨c, hc, hletter⟩ := List.any_eq_true.1 hany
  have hnot := List.all_eq_true.1 m.letters_not_spellsNumber c (List.contains_iff_mem.1 hletter)
  rw [List.all_eq_true.1 h c hc] at hnot
  cases hnot

/-- The text of a number has a view count, of its digits. -/
theorem parse_of_spellsNumber {text : List Char} (h : text.all spellsNumber) :
    parse text = .ok (natural? ((text.filter isNumeric).filter isDigit)) := by
  simp only [parse, magnitude?_eq_none h]

/-! ## Digits before the first point -/

theorem isDigit_of_isNumeric {c : Char} (h : isNumeric c) (hpoint : c ≠ '.') : isDigit c := by
  rw [isNumeric, Bool.or_eq_true, beq_iff_eq] at h
  exact h.resolve_right hpoint

/-- Before the first point there are digits only. -/
theorem isDigit_of_mem_takeWhile {numeric : List Char} (h : ∀ c ∈ numeric, isNumeric c) :
    ∀ c ∈ numeric.takeWhile (· != '.'), isDigit c := by
  intro c hc
  have hpoint := List.mem_takeWhile_imp hc
  exact isDigit_of_isNumeric (h c ((List.takeWhile_sublist _).subset hc)) (bne_iff_ne.1 hpoint)

theorem length_takeWhile_le_countP {numeric : List Char} (h : ∀ c ∈ numeric, isNumeric c) :
    (numeric.takeWhile (· != '.')).length ≤ numeric.countP isDigit :=
  calc (numeric.takeWhile (· != '.')).length
      = (numeric.takeWhile (· != '.')).countP isDigit :=
        (List.countP_eq_length.2 (isDigit_of_mem_takeWhile h)).symm
    _ ≤ numeric.countP isDigit := (List.takeWhile_sublist _).countP_le

section Plain

variable {digits : List Char} (h : digits.all isDigit)

include h

theorem bne_point_of_all_isDigit : ∀ c ∈ digits, c != '.' := by
  intro c hc
  have hdigit := List.all_eq_true.1 h c hc
  have hpoint : isDigit '.' = false := by decide
  rw [bne_iff_ne]
  rintro rfl
  rw [hpoint] at hdigit
  cases hdigit

/-- Digits alone are all before the first point. -/
theorem takeWhile_of_all_isDigit : digits.takeWhile (· != '.') = digits :=
  List.takeWhile_eq_self_iff.2 (bne_point_of_all_isDigit h)

theorem dropWhile_of_all_isDigit : digits.dropWhile (· != '.') = [] :=
  List.dropWhile_eq_nil_iff.2 (bne_point_of_all_isDigit h)

end Plain

/-! ## Counts that are not refused -/

theorem scaled?_ok {power : Nat} {numeric : List Char} (hnumeric : ∀ c ∈ numeric, isNumeric c)
    (hcount : numeric.countP isDigit + power ≤ maxScaledDigits) :
    ∃ count, scaled? power numeric = .ok count := by
  simp only [scaled?]
  split
  · exact ⟨_, rfl⟩
  · have hunits := length_takeWhile_le_countP hnumeric
    rw [if_neg]
    · exact ⟨_, rfl⟩
    · apply Nat.not_lt.2
      apply Nat.le_trans (List.dropWhile_sublist _).length_le
      rw [List.length_append, List.length_take]
      exact Nat.le_trans (Nat.add_le_add hunits (Nat.min_le_left _ _)) hcount

/-- A text with fewer digits than the limit, by as many as a magnitude can add,
is not refused. -/
theorem parse_ok {text : List Char} (h : text.countP isDigit + 9 ≤ maxScaledDigits) :
    ∃ count, parse text = .ok count := by
  simp only [parse]
  split
  · rename_i m _
    apply scaled?_ok
    · intro c hc
      exact (List.mem_filter.1 hc).2
    · have hfilter : (text.filter isNumeric).countP isDigit ≤ text.countP isDigit :=
        List.filter_sublist.countP_le
      exact Nat.le_trans (Nat.add_le_add hfilter m.power_le_nine) h
  · exact ⟨_, rfl⟩

/-! ## Counts that are too large -/

/-- A view count that is refused. -/
def Refused (text : List Char) : Prop :=
  parse text = .error (.defect .countTooLarge)

/-- There is no other way for a view count to fail. -/
theorem refused_of_parse_eq_error {text : List Char} {fault : Fault}
    (h : parse text = .error fault) : Refused text := by
  have hfault : fault = .defect .countTooLarge := by
    simp only [parse, scaled?] at h
    split at h
    · split at h
      · cases h
      · split at h
        · exact (Except.error.inj h).symm
        · cases h
    · cases h
  rw [Refused, h, hfault]

/-- So many thousands, in nines. -/
def thousands (n : Nat) : List Char :=
  List.replicate n '9' ++ ['k']

theorem magnitude?_thousands (n : Nat) : magnitude? (thousands n) = some .thousand := by
  apply List.find?_cons_of_pos
  rw [thousands, List.any_append, Bool.or_eq_true]
  exact .inr rfl

theorem filter_thousands (n : Nat) :
    (thousands n).filter isNumeric = List.replicate n '9' := by
  rw [thousands, List.filter_append, List.filter_replicate_of_pos rfl]
  exact List.append_nil _

theorem scaled?_replicate_nine {n power : Nat} (h : maxScaledDigits < n + 1 + power) :
    scaled? power (List.replicate (n + 1) '9') = .error (.defect .countTooLarge) := by
  have hdigits : (List.replicate (n + 1) '9').all isDigit :=
    Text.all_isDigit_replicate (by decide) _
  have hunits := takeWhile_of_all_isDigit hdigits
  have hplaces := dropWhile_of_all_isDigit hdigits
  simp only [scaled?, hunits, hplaces]
  rw [if_neg (by simp [List.replicate_succ]), if_pos]
  rw [List.replicate_succ, List.cons_append, List.dropWhile_cons_of_neg (by decide)]
  simp only [List.length_cons, List.length_append, List.length_replicate, List.drop_nil,
    List.nil_append, List.length_take, Nat.min_self]
  omega

/-- Close to a million nines make too many thousands. -/
theorem refused_thousands {n : Nat} (h : maxScaledDigits < n + 3) : Refused (thousands n) := by
  obtain ⟨m, rfl⟩ : ∃ m, n = m + 1 := Nat.exists_eq_add_one.2 (by rw [maxScaledDigits] at h; omega)
  simp only [Refused, parse, magnitude?_thousands, filter_thousands]
  exact scaled?_replicate_nine h

end KidsListing.ViewCount
