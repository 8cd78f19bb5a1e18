import KidsListing.Number.Shortest
import KidsListing.Text.Digit
import Mathlib.Data.List.Induction

/-!
# The spelling of numbers

A number that is written out is not empty, and it is written with digits, signs,
the point and the letters of an exponent and of `inf` and `nan`.  What some digits
stand for is less than the power of ten of their number.
-/

namespace KidsListing.Text

/-- The characters besides the digits that numbers are written with. -/
def numberMarks : List Char :=
  ['-', '+', '.', 'e', 'i', 'n', 'f', 'a']

def spellsNumber (c : Char) : Bool :=
  isDigit c || numberMarks.contains c

theorem all_spellsNumber_toDigits (n : Nat) : (Nat.toDigits 10 n).all spellsNumber := by
  apply List.all_eq_true.2
  intro c hc
  have hdigit : isDigit c = true := Nat.isDigit_of_mem_toDigits (by decide) (by decide) hc
  rw [spellsNumber, hdigit, Bool.true_or]

theorem all_spellsNumber_toString (n : Int) : (toString n).toList.all spellsNumber := by
  cases n with
  | ofNat m =>
      change m.repr.toList.all spellsNumber
      rw [Nat.toList_repr]
      exact all_spellsNumber_toDigits m
  | negSucc m =>
      change ("-" ++ m.succ.repr).toList.all spellsNumber
      rw [String.toList_append, Nat.toList_repr, List.all_append,
        all_spellsNumber_toDigits]
      rfl

theorem toString_ne_empty (n : Int) : toString n ≠ "" := by
  intro h
  cases n with
  | ofNat m => exact Nat.repr_ne_empty h
  | negSucc m =>
      have hlist : ("-" ++ m.succ.repr).toList = [] := congrArg String.toList h
      rw [String.toList_append] at hlist
      exact absurd hlist (by simp)

theorem digitValue_lt_ten {c : Char} (h : isDigit c) : digitValue c < 10 := by
  have hupper : c ≤ '9' := of_decide_eq_true (Bool.and_eq_true_iff.1 h).2
  have hle : c.toNat ≤ 57 := hupper
  rw [digitValue]
  exact Nat.lt_succ_of_le (Nat.sub_le_sub_right hle 48)

theorem ofDigits_append (digits : List Char) (c : Char) :
    ofDigits (digits ++ [c]) = 10 * ofDigits digits + digitValue c := by
  simp [ofDigits]

theorem ofDigits_lt {digits : List Char} (h : digits.all isDigit) :
    ofDigits digits < Nat.pow 10 digits.length := by
  induction digits using List.reverseRecOn with
  | nil => exact Nat.one_pos
  | append_singleton digits c ih =>
      rw [List.all_append, Bool.and_eq_true] at h
      have hvalue : digitValue c < 10 := digitValue_lt_ten (List.all_eq_true.1 h.2 c (by simp))
      calc
        ofDigits (digits ++ [c]) = 10 * ofDigits digits + digitValue c := ofDigits_append digits c
        _ < 10 * (ofDigits digits + 1) := by omega
        _ ≤ 10 * Nat.pow 10 digits.length := Nat.mul_le_mul_left 10 (ih h.1)
        _ = Nat.pow 10 (digits ++ [c]).length := by
          rw [List.length_append, List.length_singleton, Nat.mul_comm]
          rfl

theorem ofDigits_lt_of_length_le {digits : List Char} (h : digits.all isDigit) {n : Nat}
    (hlength : digits.length ≤ n) : ofDigits digits < Nat.pow 10 n :=
  Nat.lt_of_lt_of_le (ofDigits_lt h) (Nat.pow_le_pow_right (by decide) hlength)

end KidsListing.Text

namespace KidsListing.Binary64

open KidsListing.Text (spellsNumber all_spellsNumber_toDigits)

/-! ## Layouts -/

theorem positional_ne_nil (digits : List Char) (point : Int) : positional digits point ≠ [] := by
  unfold positional
  split <;> simp

theorem scientific_ne_nil (style : Layout) (digits : List Char) (exponent : Int) :
    scientific style digits exponent ≠ [] := by
  simp [scientific]

theorem decimalText_ne_nil (style : Layout) (d : Decimal) : decimalText style d ≠ [] := by
  simp only [decimalText]
  split
  · exact positional_ne_nil _ _
  · exact scientific_ne_nil _ _ _

section Characters

variable {digits : List Char}

theorem all_spellsNumber_zeros (n : Nat) : (List.replicate n '0').all spellsNumber := by
  rw [List.all_replicate]
  split <;> rfl

theorem all_spellsNumber_of_sublist {part : List Char} (h : digits.all spellsNumber)
    (hpart : part.Sublist digits) : part.all spellsNumber :=
  List.all_eq_true.2 fun c hc => List.all_eq_true.1 h c (hpart.subset hc)

theorem all_spellsNumber_positional (h : digits.all spellsNumber) (point : Int) :
    (positional digits point).all spellsNumber := by
  unfold positional
  split
  · simp only [List.all_append, Bool.and_eq_true]
    exact ⟨⟨rfl, all_spellsNumber_zeros _⟩, h⟩
  · simp only [List.all_append, Bool.and_eq_true]
    have hwhole := all_spellsNumber_of_sublist h (List.take_sublist point.toNat digits)
    refine ⟨⟨⟨hwhole, all_spellsNumber_zeros _⟩, rfl⟩, ?_⟩
    split
    · rfl
    · exact all_spellsNumber_of_sublist h (List.drop_sublist point.toNat digits)

theorem all_spellsNumber_scientific (style : Layout) (h : digits.all spellsNumber)
    (exponent : Int) : (scientific style digits exponent).all spellsNumber := by
  simp only [scientific, List.all_append, Bool.and_eq_true]
  refine ⟨⟨⟨?_, ?_⟩, all_spellsNumber_zeros _⟩, all_spellsNumber_toDigits _⟩
  · split
    · rfl
    · exact h
    · rename_i d rest _
      rw [List.all_cons, Bool.and_eq_true] at h
      rw [List.all_cons, List.all_cons, h.1, h.2]
      rfl
  · split <;> rfl

theorem all_spellsNumber_decimalText (style : Layout) (d : Decimal) :
    (decimalText style d).all spellsNumber := by
  simp only [decimalText]
  split
  · exact all_spellsNumber_positional (all_spellsNumber_toDigits _) _
  · exact all_spellsNumber_scientific style (all_spellsNumber_toDigits _) _

end Characters

/-! ## Values -/

theorem all_spellsNumber_text (x : Binary64) : x.text.toList.all spellsNumber := by
  cases x with
  | nan => rfl
  | infinite negative => cases negative <;> rfl
  | finite negative significand exponent canonical =>
      have hmagnitude : (if significand = 0 then ['0', '.', '0']
          else decimalText layout (shortest significand exponent)).all spellsNumber = true := by
        split
        · rfl
        · exact all_spellsNumber_decimalText _ _
      simp only [text, String.toList_ofList]
      cases negative with
      | false => exact hmagnitude
      | true =>
          rw [if_pos rfl, List.all_cons, hmagnitude]
          rfl

theorem text_ne_empty (x : Binary64) : x.text ≠ "" := by
  cases x with
  | nan => decide
  | infinite negative => cases negative <;> decide
  | finite negative significand exponent canonical =>
      intro h
      have hlist := congrArg String.toList h
      simp only [text, String.toList_ofList] at hlist
      split at hlist
      · cases hlist
      · split at hlist
        · cases hlist
        · exact decimalText_ne_nil _ _ hlist

end KidsListing.Binary64
