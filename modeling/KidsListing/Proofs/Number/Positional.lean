import KidsListing.Proofs.Number.Spelling

/-!
# The positional value of digits

More digits at the end of some digits weigh less than one unit of what stands before
them: cutting them off is a division by a power of ten, and putting zeros there is a
multiplication.  A numeral is read when its digits are within the limit, and so is less
than the power of ten of the limit.  Without its leading zeros a digit string is worth at
least the power of ten of its first digit.
-/

namespace KidsListing.Text

theorem ofDigits_eq_ofDigitChars (digits : List Char) :
    ofDigits digits = Nat.ofDigitChars 10 digits 0 := by
  rw [Nat.ofDigitChars_eq_foldl]
  rfl

theorem ofDigits_append_digits (digits more : List Char) :
    ofDigits (digits ++ more) = Nat.pow 10 more.length * ofDigits digits + ofDigits more := by
  rw [ofDigits_eq_ofDigitChars, Nat.ofDigitChars_append,
    Nat.ofDigitChars_eq_ofDigitChars_zero, ← ofDigits_eq_ofDigitChars,
    ← ofDigits_eq_ofDigitChars]
  rfl

theorem ofDigits_append_zeros (digits : List Char) (n : Nat) :
    ofDigits (digits ++ List.replicate n '0') = Nat.pow 10 n * ofDigits digits := by
  rw [ofDigits_eq_ofDigitChars, Nat.ofDigitChars_append, Nat.ofDigitChars_replicate_zero,
    ← ofDigits_eq_ofDigitChars]
  rfl

theorem ofDigits_append_div {more : List Char} (h : more.all isDigit) (digits : List Char) :
    ofDigits (digits ++ more) / Nat.pow 10 more.length = ofDigits digits := by
  have hweight : 0 < Nat.pow 10 more.length := Nat.pow_pos (by decide)
  rw [ofDigits_append_digits, Nat.mul_add_div hweight, Nat.div_eq_of_lt (ofDigits_lt h),
    Nat.add_zero]

theorem all_isDigit_replicate {c : Char} (h : isDigit c) (n : Nat) :
    (List.replicate n c).all isDigit := by
  rw [List.all_eq_true]
  intro d hd
  rwa [List.eq_of_mem_replicate hd]

/-! ## Numerals -/

/-- Some digits within the limit, and nothing else. -/
def IsNumeral (digits : List Char) : Prop :=
  digits ≠ [] ∧ digits.all isDigit ∧ digits.length ≤ maxDigits

theorem natural?_eq_some_iff {digits : List Char} {n : Nat} :
    natural? digits = some n ↔ IsNumeral digits ∧ ofDigits digits = n := by
  rw [natural?, IsNumeral]
  by_cases h : digits ≠ [] ∧ digits.all isDigit ∧ digits.length ≤ maxDigits
  · rw [if_pos h, Option.some.injEq, and_iff_right h]
  · rw [if_neg h]
    exact iff_of_false nofun fun hboth => h hboth.1

theorem lt_pow_of_natural? {digits : List Char} {n : Nat} (h : natural? digits = some n) :
    n < Nat.pow 10 maxDigits := by
  obtain ⟨⟨-, hdigits, hlength⟩, rfl⟩ := natural?_eq_some_iff.1 h
  exact ofDigits_lt_of_length_le hdigits hlength

/-! ## Leading zeros -/

theorem ofDigits_cons (c : Char) (rest : List Char) :
    ofDigits (c :: rest) = Nat.pow 10 rest.length * digitValue c + ofDigits rest := by
  have hone : ofDigits [c] = digitValue c := Nat.zero_add _
  rw [← List.singleton_append, ofDigits_append_digits, hone]

theorem ofDigits_dropWhile_zero (digits : List Char) :
    ofDigits (digits.dropWhile (· == '0')) = ofDigits digits := by
  induction digits with
  | nil => rfl
  | cons c rest ih =>
      by_cases hc : c = '0'
      · have hzero : digitValue '0' = 0 := rfl
        rw [ofDigits_cons, hc, hzero, Nat.mul_zero, Nat.zero_add]
        exact ih
      · rw [List.dropWhile_cons_of_neg (by simpa using hc)]

theorem digitValue_pos {c : Char} (h : isDigit c) (hc : c ≠ '0') : 0 < digitValue c := by
  have hlower : '0' ≤ c := of_decide_eq_true (Bool.and_eq_true_iff.1 h).1
  have hle : 48 ≤ c.toNat := hlower
  have hne : c.toNat ≠ 48 := fun heq => hc (Char.toNat_inj.1 heq)
  rw [digitValue]
  exact Nat.sub_pos_of_lt (Nat.lt_of_le_of_ne hle (Ne.symm hne))

/-- As many digits as there are after the leading zeros are needed. -/
theorem pow_le_ofDigits {digits : List Char} (h : digits.all isDigit) {n : Nat}
    (hlength : n < (digits.dropWhile (· == '0')).length) : Nat.pow 10 n ≤ ofDigits digits := by
  rw [← ofDigits_dropWhile_zero]
  cases hdigits : digits.dropWhile (· == '0') with
  | nil =>
      rw [hdigits] at hlength
      cases hlength
  | cons c rest =>
      have hmem : c ∈ digits := (List.dropWhile_sublist _).subset (by rw [hdigits]; simp)
      have hne : c ≠ '0' := by
        have hhead := List.head?_dropWhile_not (· == '0') digits
        rw [hdigits] at hhead
        simpa using hhead
      have hpositive := digitValue_pos (List.all_eq_true.1 h c hmem) hne
      rw [hdigits] at hlength
      calc
        Nat.pow 10 n ≤ Nat.pow 10 rest.length :=
          Nat.pow_le_pow_right (by decide) (Nat.le_of_lt_succ hlength)
        _ ≤ Nat.pow 10 rest.length * digitValue c := Nat.le_mul_of_pos_right _ hpositive
        _ ≤ ofDigits (c :: rest) := by
          rw [ofDigits_cons]
          exact Nat.le_add_right _ _

theorem pow_le_ofDigits_nines {n m : Nat} (h : n < m) :
    Nat.pow 10 n ≤ ofDigits (List.replicate m '9') := by
  apply pow_le_ofDigits (all_isDigit_replicate (by decide) m)
  rw [List.dropWhile_replicate, if_neg (by decide), List.length_replicate]
  exact h

end KidsListing.Text
