import KidsListing.Number.Binary64
import Mathlib.Algebra.Order.Field.Power
import Mathlib.Data.Rat.Cast.Order
import Mathlib.Tactic.Linarith
import Mathlib.Tactic.NormNum
import Mathlib.Tactic.Positivity
import Mathlib.Tactic.Ring

/-!
# Rounding to binary floating point

A quotient is written in units of a power of two, so that it has 53 bits or the least
exponent, and is rounded to the nearest integer.  Hence it is finite exactly below the
middle between the largest value and the power of two after it, is not zero exactly above
half the least value, and a finite result is within half a unit of its last place.  The
same holds of decimals, with the shortcuts for powers of ten that are far out of range.
-/

namespace KidsListing.Binary64

/-! ## The nearest integer -/

/-- No integer is nearer, and of two that are equally near this is the even one. -/
structure IsNearest (k : ℕ) (s : ℚ) : Prop where
  near : |s - k| ≤ 1 / 2
  even : |s - k| = 1 / 2 → k % 2 = 0

/-- The fraction of the quotient decides, and a fraction of one half leaves it to the
integer before it. -/
theorem isNearest_nearest (n : ℕ) {d : ℕ} (hd : 0 < d) : IsNearest (nearest n d) (n / d) := by
  obtain ⟨floor, hfloor⟩ : ∃ floor, floor = n / d := ⟨_, rfl⟩
  obtain ⟨rest, hrest⟩ : ∃ rest, rest = n % d := ⟨_, rfl⟩
  have hdQ : (0 : ℚ) < d := Nat.cast_pos.2 hd
  have hquotient : (n : ℚ) / d = floor + rest / d := by
    have hsplit : (n : ℚ) = d * floor + rest := by
      rw [hfloor, hrest]
      exact_mod_cast (Nat.div_add_mod n d).symm
    rw [hsplit, add_div, mul_div_cancel_left₀ _ hdQ.ne']
  have hzero : (0 : ℚ) ≤ rest / d := div_nonneg (Nat.cast_nonneg _) hdQ.le
  have hone : (rest : ℚ) / d < 1 := by
    rw [div_lt_one hdQ, hrest]
    exact_mod_cast Nat.mod_lt n hd
  have habove : d < 2 * rest ↔ 1 / 2 < (rest : ℚ) / d := by
    rw [lt_div_iff₀ hdQ, one_div_mul_eq_div, div_lt_iff₀' two_pos]
    exact_mod_cast Iff.rfl
  have hhalf : 2 * rest = d ↔ (rest : ℚ) / d = 1 / 2 := by
    rw [div_eq_iff hdQ.ne', one_div_mul_eq_div, eq_div_iff two_ne_zero, mul_comm (rest : ℚ)]
    exact_mod_cast Iff.rfl
  simp only [nearest, ← hfloor, ← hrest, hquotient]
  split
  · rename_i hup
    have hle : 1 / 2 ≤ (rest : ℚ) / d := by
      rcases hup with hmore | hequal
      · exact (habove.1 hmore).le
      · exact (hhalf.1 hequal.1).ge
    have hdistance : |(floor + rest / d : ℚ) - (floor + 1 : ℕ)| = 1 - rest / d := by
      rw [Nat.cast_add_one, add_sub_add_left_eq_sub, abs_sub_comm, abs_of_pos (sub_pos.2 hone)]
    constructor
    · rw [hdistance]
      linarith
    · rw [hdistance]
      intro hequal
      have heven : (rest : ℚ) / d = 1 / 2 := by linarith
      rcases hup with hmore | ⟨-, hodd⟩
      · exact absurd heven (habove.1 hmore).ne'
      · omega
  · rename_i hdown
    have hdistance : |(floor + rest / d : ℚ) - floor| = rest / d := by
      rw [add_sub_cancel_left, abs_of_nonneg hzero]
    constructor
    · rw [hdistance]
      exact not_lt.1 fun hmore => hdown (.inl (habove.2 hmore))
    · rw [hdistance]
      intro hequal
      have hodd : ¬ floor % 2 = 1 := fun hodd => hdown (.inr ⟨hhalf.2 hequal, hodd⟩)
      omega

section Nearest

variable {k K : ℕ} {s : ℚ}

theorem IsNearest.le (h : IsNearest k s) : (k : ℚ) ≤ s + 1 / 2 := by
  have hnear := (abs_le.1 h.near).1
  linarith

theorem IsNearest.ge (h : IsNearest k s) : s ≤ k + 1 / 2 := by
  have hnear := (abs_le.1 h.near).2
  linarith

/-- An even integer is kept when the next one is no nearer. -/
theorem IsNearest.lt_iff_of_even (h : IsNearest k s) (heven : K % 2 = 0) :
    K < k ↔ (K : ℚ) + 1 / 2 < s := by
  constructor
  · intro hlt
    have hnext : (K : ℚ) + 1 ≤ k := by exact_mod_cast hlt
    have hle := h.le
    apply lt_of_le_of_ne (by linarith)
    intro hequal
    have hk : (k : ℚ) = (K + 1 : ℕ) := by
      rw [Nat.cast_add_one]
      linarith
    have htie : |s - k| = 1 / 2 := by
      rw [hk, ← hequal, Nat.cast_add_one]
      norm_num
    have hkeven := h.even htie
    have hkK : k = K + 1 := Nat.cast_injective hk
    omega
  · intro hlt
    have hge := h.ge
    have hQ : (K : ℚ) < k := by linarith
    exact_mod_cast hQ

/-- An odd integer is left when the next one is as near. -/
theorem IsNearest.lt_iff_of_odd (h : IsNearest k s) (hodd : K % 2 = 1) :
    K < k ↔ (K : ℚ) + 1 / 2 ≤ s := by
  constructor
  · intro hlt
    have hnext : (K : ℚ) + 1 ≤ k := by exact_mod_cast hlt
    have hle := h.le
    linarith
  · intro hle
    have hge := h.ge
    have hQ : (K : ℚ) ≤ k := by linarith
    apply lt_of_le_of_ne (by exact_mod_cast hQ)
    rintro rfl
    have htie : |s - K| = 1 / 2 := by
      have hs : s = K + 1 / 2 := le_antisymm hge hle
      rw [hs, add_sub_cancel_left, abs_of_pos one_half_pos]
    have heven := h.even htie
    omega

end Nearest

/-! ## The unit of the last place -/

theorem scale_quotient (numerator : ℕ) {denominator : ℕ} (h : 0 < denominator) (e : ℤ) :
    0 < (scale numerator denominator e).2 ∧
      ((scale numerator denominator e).1 : ℚ) / (scale numerator denominator e).2 =
        numerator / denominator / 2 ^ e := by
  have hpower (n : ℕ) : ((Nat.pow 2 n : ℕ) : ℚ) = 2 ^ (n : ℤ) := by
    rw [Nat.pow_eq, Nat.cast_pow, Nat.cast_ofNat, zpow_natCast]
  rw [scale]
  split
  · rename_i hnonneg
    refine ⟨Nat.mul_pos h (Nat.pow_pos two_pos), ?_⟩
    rw [Nat.cast_mul, hpower, Int.toNat_of_nonneg hnonneg, div_mul_eq_div_div]
  · rename_i hneg
    refine ⟨h, ?_⟩
    rw [Nat.cast_mul, hpower, Int.toNat_of_nonneg (by omega), zpow_neg, ← div_eq_mul_inv,
      div_right_comm]

/-- In units of `2 ^ e` the quotient has 53 bits, or fewer with the least exponent. -/
structure Fits (q : ℚ) (e : ℤ) : Prop where
  least : -1074 ≤ e
  lt : q < 2 ^ (e + 53)
  le : e = -1074 ∨ 2 ^ (e + 52) ≤ q

theorem fits_max {q : ℚ} {e : ℤ} (hle : 2 ^ (e + 52) ≤ q) (hlt : q < 2 ^ (e + 53)) :
    Fits q (max (-1074) e) := by
  rcases le_total (-1074) e with hnormal | hsmall
  · rw [max_eq_right hnormal]
    exact ⟨hnormal, hlt, .inr hle⟩
  · rw [max_eq_left hsmall]
    exact ⟨le_rfl, hlt.trans_le (zpow_le_zpow_right₀ one_le_two (by omega)), .inl rfl⟩

section Quotient

variable {numerator denominator : ℕ}

theorem log2_bounds {n : ℕ} (h : n ≠ 0) :
    (2 : ℚ) ^ (n.log2 : ℤ) ≤ n ∧ (n : ℚ) < 2 ^ ((n.log2 : ℤ) + 1) := by
  constructor
  · rw [zpow_natCast]
    exact_mod_cast Nat.log2_self_le h
  · rw [← Nat.cast_succ, zpow_natCast]
    exact_mod_cast Nat.lt_log2_self

/-- The bit lengths tell the quotient up to a factor of four. -/
theorem quotient_bounds (hn : numerator ≠ 0) (hd : denominator ≠ 0) :
    (2 : ℚ) ^ ((numerator.log2 : ℤ) - denominator.log2 - 1) < numerator / denominator ∧
      (numerator / denominator : ℚ) < 2 ^ ((numerator.log2 : ℤ) - denominator.log2 + 1) := by
  obtain ⟨hnle, hnlt⟩ := log2_bounds hn
  obtain ⟨hdle, hdlt⟩ := log2_bounds hd
  have hdQ : (0 : ℚ) < denominator := by exact_mod_cast Nat.pos_of_ne_zero hd
  have htwo : (2 : ℚ) ≠ 0 := two_ne_zero
  constructor
  · rw [lt_div_iff₀ hdQ]
    calc
      (2 : ℚ) ^ ((numerator.log2 : ℤ) - denominator.log2 - 1) * denominator <
          2 ^ ((numerator.log2 : ℤ) - denominator.log2 - 1) * 2 ^ ((denominator.log2 : ℤ) + 1) :=
        mul_lt_mul_of_pos_left hdlt (zpow_pos two_pos _)
      _ = 2 ^ (numerator.log2 : ℤ) := by
        rw [← zpow_add₀ htwo]
        congr 1
        omega
      _ ≤ numerator := hnle
  · rw [div_lt_iff₀ hdQ]
    calc
      (numerator : ℚ) < 2 ^ ((numerator.log2 : ℤ) + 1) := hnlt
      _ = 2 ^ ((numerator.log2 : ℤ) - denominator.log2 + 1) * 2 ^ (denominator.log2 : ℤ) := by
        rw [← zpow_add₀ htwo]
        congr 1
        omega
      _ ≤ 2 ^ ((numerator.log2 : ℤ) - denominator.log2 + 1) * denominator :=
        mul_le_mul_of_nonneg_left hdle (zpow_pos two_pos _).le

theorem fits_exponentFor (hn : numerator ≠ 0) (hd : denominator ≠ 0) :
    Fits (numerator / denominator) (exponentFor numerator denominator) := by
  obtain ⟨hlow, hhigh⟩ := quotient_bounds hn hd
  obtain ⟨guess, hguess⟩ : ∃ guess : ℤ, guess = numerator.log2 - denominator.log2 - 53 :=
    ⟨_, rfl⟩
  have hlow' : (2 : ℚ) ^ (guess + 52) < numerator / denominator := by
    rwa [hguess, show (numerator.log2 : ℤ) - denominator.log2 - 53 + 52 =
      numerator.log2 - denominator.log2 - 1 by ring]
  have hhigh' : (numerator / denominator : ℚ) < 2 ^ (guess + 54) := by
    rwa [hguess, show (numerator.log2 : ℤ) - denominator.log2 - 53 + 54 =
      numerator.log2 - denominator.log2 + 1 by ring]
  obtain ⟨hpos, hscaled⟩ := scale_quotient numerator (Nat.pos_of_ne_zero hd) guess
  have hbits : (scale numerator denominator guess).1 / (scale numerator denominator guess).2 <
        Nat.pow 2 53 ↔ (numerator / denominator : ℚ) < 2 ^ (guess + 53) := by
    rw [Nat.div_lt_iff_lt_mul hpos, zpow_add₀ two_ne_zero,
      ← div_lt_iff₀' (zpow_pos two_pos guess), ← hscaled, div_lt_iff₀ (Nat.cast_pos.2 hpos)]
    exact_mod_cast Iff.rfl
  have hexponent : exponentFor numerator denominator =
      max (-1074) (if (numerator / denominator : ℚ) < 2 ^ (guess + 53) then guess
        else guess + 1) := by
    simp only [exponentFor, ← hguess, hbits]
  rw [hexponent]
  split
  · rename_i hlt
    exact fits_max hlow'.le hlt
  · rename_i hge
    rw [not_lt] at hge
    apply fits_max
    · rwa [add_assoc]
    · rwa [add_assoc]

end Quotient

/-! ## Significands -/

/-- From here on there is no finite value, half a unit above the largest one. -/
def overflow : ℚ := 2 ^ (1024 : ℤ) - 2 ^ (970 : ℤ)

/-- Up to here there is only zero, half of the least value. -/
def underflow : ℚ := 2 ^ (-1075 : ℤ)

theorem two_zpow_succ (e : ℤ) : (2 : ℚ) ^ (e + 1) = 2 ^ e * 2 :=
  zpow_add_one₀ two_ne_zero e

theorem overflow_eq : overflow = (2 ^ 53 - 1 / 2) * 2 ^ (971 : ℤ) := by
  have htop : (2 : ℚ) ^ (1024 : ℤ) = 2 ^ 53 * 2 ^ (971 : ℤ) := by
    rw [← zpow_natCast, ← zpow_add₀ two_ne_zero]
    rfl
  have hunit : (2 : ℚ) ^ (971 : ℤ) = 2 ^ (970 : ℤ) * 2 := two_zpow_succ 970
  rw [overflow, htop, hunit]
  ring

theorem underflow_eq : underflow = 1 / 2 * 2 ^ (-1074 : ℤ) := by
  have hunit : (2 : ℚ) ^ (-1074 : ℤ) = 2 ^ (-1075 : ℤ) * 2 := by
    rw [← two_zpow_succ, show (-1075 : ℤ) + 1 = -1074 by decide]
  rw [underflow, hunit]
  ring

theorem overflow_lt : overflow < 2 ^ (1024 : ℤ) :=
  sub_lt_self _ (zpow_pos two_pos _)

theorem lt_overflow : 2 ^ (1023 : ℤ) < overflow := by
  have htop : (2 : ℚ) ^ (1024 : ℤ) = 2 ^ (1023 : ℤ) * 2 := two_zpow_succ 1023
  have hunit : (2 : ℚ) ^ (970 : ℤ) < 2 ^ (1023 : ℤ) := zpow_lt_zpow_right₀ one_lt_two (by decide)
  rw [overflow, htop, mul_two, add_sub_assoc]
  exact lt_add_of_pos_right _ (sub_pos.2 hunit)

theorem underflow_lt_overflow : underflow < overflow :=
  (zpow_lt_zpow_right₀ one_lt_two (by decide)).trans lt_overflow

/-- A positive quotient in units of a power of two, rounded to an integer. -/
structure Rounded (q : ℚ) (k : ℕ) (e : ℤ) : Prop where
  fits : Fits q e
  nearest : IsNearest k (q / 2 ^ e)

/-- A significand of 54 bits is a power of two and is carried into the exponent. -/
def carried (negative : Bool) (k : ℕ) (e : ℤ) : Binary64 :=
  if k = Nat.pow 2 53 then ofCanonical negative (Nat.pow 2 52) (e + 1)
  else ofCanonical negative k e

theorem exists_ofRatio_eq_carried (negative : Bool) {numerator denominator : ℕ}
    (hn : numerator ≠ 0) (hd : denominator ≠ 0) :
    ∃ k e, Rounded (numerator / denominator) k e ∧
      ofRatio negative numerator denominator = carried negative k e := by
  obtain ⟨e, he⟩ : ∃ e, e = exponentFor numerator denominator := ⟨_, rfl⟩
  obtain ⟨hpos, hscaled⟩ := scale_quotient numerator (Nat.pos_of_ne_zero hd) e
  have hnearest := isNearest_nearest (scale numerator denominator e).1 hpos
  rw [hscaled] at hnearest
  refine ⟨_, e, ⟨he ▸ fits_exponentFor hn hd, hnearest⟩, ?_⟩
  rw [ofRatio, if_neg hn, ← he]
  rfl

namespace Rounded

variable {q : ℚ} {k : ℕ} {e : ℤ} (h : Rounded q k e)

include h

theorem quotient_lt : q / 2 ^ e < 2 ^ 53 := by
  rw [div_lt_iff₀' (zpow_pos two_pos e)]
  have hlt := h.fits.lt
  rwa [zpow_add₀ two_ne_zero] at hlt

theorem le_pow : k ≤ Nat.pow 2 53 := by
  have hnot : ¬ Nat.pow 2 53 < k := by
    rw [h.nearest.lt_iff_of_even (by decide)]
    have hlt := h.quotient_lt
    norm_num at hlt ⊢
    linarith
  exact not_lt.1 hnot

theorem pow_le (hnormal : e ≠ -1074) : Nat.pow 2 52 ≤ k := by
  have hle := h.fits.le.resolve_left hnormal
  rw [zpow_add₀ two_ne_zero, ← le_div_iff₀' (zpow_pos two_pos e)] at hle
  have hlt : Nat.pow 2 52 - 1 < k := by
    rw [h.nearest.lt_iff_of_odd (by decide)]
    norm_num at hle ⊢
    linarith
  exact Nat.le_of_pred_lt hlt

/-- The carry begins half a unit below the power of two. -/
theorem eq_pow_iff : k = Nat.pow 2 53 ↔ (2 ^ 53 - 1 / 2) * 2 ^ e ≤ q := by
  have hlt : k = Nat.pow 2 53 ↔ Nat.pow 2 53 - 1 < k := by
    have hle := h.le_pow
    constructor
    · rintro rfl
      decide
    · intro hlt
      exact le_antisymm hle (Nat.le_of_pred_lt hlt)
  rw [hlt, h.nearest.lt_iff_of_odd (by decide), ← le_div_iff₀ (zpow_pos two_pos e)]
  norm_num

theorem pos_iff : 0 < k ↔ underflow < q := by
  by_cases hnormal : e = -1074
  · rw [h.nearest.lt_iff_of_even (by decide), Nat.cast_zero, zero_add,
      lt_div_iff₀ (zpow_pos two_pos _), hnormal, underflow_eq]
  · have hleast := h.fits.least
    have hlow := h.fits.le.resolve_left hnormal
    apply iff_of_true (Nat.lt_of_lt_of_le (by decide) (h.pow_le hnormal))
    calc
      underflow < 2 ^ (e + 52) := zpow_lt_zpow_right₀ one_lt_two (by omega)
      _ ≤ q := hlow

theorem near : |q - k * 2 ^ e| ≤ 2 ^ e / 2 := by
  have hpos : (0 : ℚ) < 2 ^ e := zpow_pos two_pos e
  have hscaled : q - k * 2 ^ e = (q / 2 ^ e - k) * 2 ^ e := by
    rw [sub_mul, div_mul_cancel₀ _ hpos.ne']
  calc
    |q - k * 2 ^ e| = |q / 2 ^ e - k| * 2 ^ e := by rw [hscaled, abs_mul, abs_of_pos hpos]
    _ ≤ 1 / 2 * 2 ^ e := mul_le_mul_of_nonneg_right h.nearest.near hpos.le
    _ = 2 ^ e / 2 := one_div_mul_eq_div _ _

theorem lt_overflow_iff : q < overflow ↔ e < 971 ∨ e = 971 ∧ k ≠ Nat.pow 2 53 := by
  rcases lt_trichotomy e 971 with hless | hequal | hmore
  · apply iff_of_true _ (.inl hless)
    calc
      q < 2 ^ (e + 53) := h.fits.lt
      _ ≤ 2 ^ (1023 : ℤ) := zpow_le_zpow_right₀ one_le_two (by omega)
      _ < overflow := lt_overflow
  · have hcarry := h.eq_pow_iff
    rw [hequal, ← overflow_eq] at hcarry
    rw [← not_le, ← hcarry]
    omega
  · have hle := h.fits.le.resolve_left (by omega)
    apply iff_of_false _ (by omega)
    rw [not_lt]
    calc
      overflow ≤ 2 ^ (1024 : ℤ) := overflow_lt.le
      _ ≤ 2 ^ (e + 52) := zpow_le_zpow_right₀ one_le_two (by omega)
      _ ≤ q := hle

theorem canonical_iff (huncarried : k ≠ Nat.pow 2 53) : CanonicalBinary64 k e ↔ e ≤ 971 := by
  constructor
  · intro hcanonical
    exact hcanonical.2.2.1
  · intro hle
    refine ⟨lt_of_le_of_ne h.le_pow huncarried, h.fits.least, hle, ?_⟩
    by_cases hnormal : e = -1074
    · exact .inl hnormal
    · exact .inr (h.pow_le hnormal)

end Rounded

/-! ## Values -/

def withSign (negative : Bool) (magnitude : ℚ) : ℚ :=
  if negative then -magnitude else magnitude

theorem abs_withSign_sub (negative : Bool) (p q : ℚ) :
    |withSign negative p - withSign negative q| = |p - q| := by
  cases negative
  · rfl
  · rw [withSign, withSign, if_pos rfl, if_pos rfl, neg_sub_neg, abs_sub_comm]

/-- The value is finite, and half a unit of its last place away at most. -/
def IsNear : Binary64 → ℚ → Prop
  | .finite negative significand exponent _, q =>
      |q - withSign negative (significand * 2 ^ exponent)| ≤ 2 ^ exponent / 2
  | _, _ => False

/-- What a magnitude becomes in the format. -/
structure Represents (value : Binary64) (negative : Bool) (q : ℚ) : Prop where
  isFinite : value.isFinite ↔ q < overflow
  isPositive : value.isPositive ↔ negative = false ∧ underflow < q
  isNear : q < overflow → value.IsNear (withSign negative q)

variable {q : ℚ}

theorem represents_finite (negative : Bool) {k : ℕ} {e : ℤ} (hcanonical : CanonicalBinary64 k e)
    (hlt : q < overflow) (hpos : 0 < k ↔ underflow < q) (hnear : |q - k * 2 ^ e| ≤ 2 ^ e / 2) :
    Represents (.finite negative k e hcanonical) negative q where
  isFinite := iff_of_true rfl hlt
  isPositive := by
    rw [← hpos, isPositive, Bool.and_eq_true, Bool.not_eq_true', bne_iff_ne, Nat.pos_iff_ne_zero]
  isNear _ := by
    rwa [IsNear, abs_withSign_sub]

theorem represents_infinite (negative : Bool) (hle : overflow ≤ q) :
    Represents (.infinite negative) negative q where
  isFinite := iff_of_false Bool.false_ne_true (not_lt.2 hle)
  isPositive := by
    rw [isPositive, Bool.not_eq_true', and_iff_left (underflow_lt_overflow.trans_le hle)]
  isNear hlt := absurd hlt (not_lt.2 hle)

theorem represents_zero (negative : Bool) (hnonneg : 0 ≤ q) (hle : q ≤ underflow) :
    Represents (zero negative) negative q := by
  apply represents_finite
  · exact hle.trans_lt underflow_lt_overflow
  · exact iff_of_false (lt_irrefl 0) (not_lt.2 hle)
  · rw [Nat.cast_zero, zero_mul, sub_zero, abs_of_nonneg hnonneg]
    calc
      q ≤ underflow := hle
      _ = 2 ^ (-1074 : ℤ) / 2 := by rw [underflow_eq, one_div_mul_eq_div]

theorem Rounded.represents {k : ℕ} {e : ℤ} (h : Rounded q k e) (negative : Bool) :
    Represents (carried negative k e) negative q := by
  rw [carried]
  split
  · rename_i hcarry
    have hrange : q < overflow ↔ e < 971 := by
      rw [h.lt_overflow_iff, or_iff_left (fun hlast => hlast.2 hcarry)]
    by_cases hlt : q < overflow
    · have hcanonical : CanonicalBinary64 (Nat.pow 2 52) (e + 1) := by
        have hleast := h.fits.least
        have hexponent := hrange.1 hlt
        exact ⟨by decide, by omega, by omega, .inr le_rfl⟩
      rw [ofCanonical, dif_pos hcanonical]
      have hvalue : ((Nat.pow 2 52 : ℕ) : ℚ) * 2 ^ (e + 1) = k * 2 ^ e := by
        rw [hcarry, two_zpow_succ]
        norm_num
        ring
      apply represents_finite negative hcanonical hlt
      · rw [← h.pos_iff, hcarry]
        decide
      · rw [hvalue]
        apply h.near.trans
        exact div_le_div_of_nonneg_right (zpow_le_zpow_right₀ one_le_two (by omega)) two_pos.le
    · have hcanonical : ¬ CanonicalBinary64 (Nat.pow 2 52) (e + 1) := by
        rintro ⟨-, -, hle, -⟩
        exact hlt (hrange.2 (by omega))
      rw [ofCanonical, dif_neg hcanonical]
      exact represents_infinite negative (not_lt.1 hlt)
  · rename_i huncarried
    have hcanonical : CanonicalBinary64 k e ↔ q < overflow := by
      rw [h.canonical_iff huncarried, h.lt_overflow_iff, and_iff_left huncarried, le_iff_lt_or_eq]
    by_cases hlt : q < overflow
    · rw [ofCanonical, dif_pos (hcanonical.2 hlt)]
      exact represents_finite negative _ hlt h.pos_iff h.near
    · rw [ofCanonical, dif_neg (mt hcanonical.1 hlt)]
      exact represents_infinite negative (not_lt.1 hlt)

theorem represents_ofRatio (negative : Bool) {numerator denominator : ℕ} (hn : numerator ≠ 0)
    (hd : denominator ≠ 0) :
    Represents (ofRatio negative numerator denominator) negative (numerator / denominator) := by
  obtain ⟨k, e, hrounded, hcarried⟩ := exists_ofRatio_eq_carried negative hn hd
  rw [hcarried]
  exact hrounded.represents negative

/-! ## Decimals -/

/-- A power of ten has three bits at least for each zero. -/
theorem two_zpow_le (n : ℕ) : (2 : ℚ) ^ (3 * n : ℤ) ≤ 10 ^ (n : ℤ) := by
  rw [zpow_mul, zpow_natCast, zpow_natCast]
  exact pow_le_pow_left₀ (by norm_num) (by norm_num) n

theorem overflow_le_of_exponent {digits : ℕ} {exponent : ℤ} (hdigits : digits ≠ 0)
    (hexponent : 400 < exponent) : overflow ≤ digits * 10 ^ exponent := by
  have hone : (1 : ℚ) ≤ digits := by exact_mod_cast Nat.one_le_iff_ne_zero.2 hdigits
  calc
    overflow ≤ 2 ^ (1024 : ℤ) := overflow_lt.le
    _ ≤ 2 ^ (3 * (401 : ℕ) : ℤ) := zpow_le_zpow_right₀ one_le_two (by decide)
    _ ≤ 10 ^ ((401 : ℕ) : ℤ) := two_zpow_le 401
    _ ≤ 10 ^ exponent := zpow_le_zpow_right₀ (by norm_num) hexponent
    _ ≤ digits * 10 ^ exponent := le_mul_of_one_le_left (zpow_pos (by norm_num) _).le hone

theorem le_underflow_of_exponent {digits : ℕ} {exponent : ℤ} (hdigits : digits ≠ 0)
    (hbits : (digits.log2 : ℤ) + 1 + 3 * exponent < -1075) (hexponent : exponent < 0) :
    digits * 10 ^ exponent ≤ underflow := by
  obtain ⟨n, hn⟩ : ∃ n : ℕ, exponent = -n := ⟨(-exponent).toNat, by omega⟩
  have htens : (10 : ℚ) ^ exponent ≤ 2 ^ (3 * exponent) := by
    rw [hn, mul_neg, zpow_neg, zpow_neg]
    exact inv_anti₀ (zpow_pos two_pos _) (two_zpow_le n)
  calc
    (digits : ℚ) * 10 ^ exponent ≤ 2 ^ ((digits.log2 : ℤ) + 1) * 2 ^ (3 * exponent) :=
      mul_le_mul (log2_bounds hdigits).2.le htens (by positivity) (by positivity)
    _ = 2 ^ ((digits.log2 : ℤ) + 1 + 3 * exponent) := (zpow_add₀ two_ne_zero _ _).symm
    _ ≤ underflow := zpow_le_zpow_right₀ one_le_two hbits.le

theorem represents_ofDecimal (negative : Bool) (digits : ℕ) (exponent : ℤ) :
    Represents (ofDecimal negative digits exponent) negative (digits * 10 ^ exponent) := by
  have htens (n : ℕ) : ((Nat.pow 10 n : ℕ) : ℚ) = 10 ^ (n : ℤ) := by
    rw [Nat.pow_eq, Nat.cast_pow, Nat.cast_ofNat, zpow_natCast]
  by_cases hzero : digits = 0
  · rw [ofDecimal, if_pos hzero, hzero, Nat.cast_zero, zero_mul]
    exact represents_zero negative le_rfl (zpow_pos two_pos _).le
  by_cases hhuge : 400 < exponent
  · rw [ofDecimal, if_neg hzero, if_pos hhuge]
    exact represents_infinite negative (overflow_le_of_exponent hzero hhuge)
  by_cases htiny : (digits.log2 : ℤ) + 1 + 3 * exponent < -1075 ∧ exponent < 0
  · rw [ofDecimal, if_neg hzero, if_neg hhuge, if_pos htiny]
    apply represents_zero negative (by positivity)
    exact le_underflow_of_exponent hzero htiny.1 htiny.2
  rw [ofDecimal, if_neg hzero, if_neg hhuge, if_neg htiny]
  split
  · rename_i hwhole
    have hquotient : (digits : ℚ) * 10 ^ exponent =
        (digits * Nat.pow 10 exponent.toNat : ℕ) / (1 : ℕ) := by
      rw [Nat.cast_mul, htens, Int.toNat_of_nonneg hwhole, Nat.cast_one, div_one]
    rw [hquotient]
    exact represents_ofRatio negative
      (Nat.mul_ne_zero hzero (Nat.pow_pos (by decide)).ne') one_ne_zero
  · rename_i hfraction
    have hquotient : (digits : ℚ) * 10 ^ exponent =
        digits / (Nat.pow 10 (-exponent).toNat : ℕ) := by
      rw [htens, Int.toNat_of_nonneg (by omega), zpow_neg, div_inv_eq_mul]
    rw [hquotient]
    exact represents_ofRatio negative hzero (Nat.pow_pos (by decide)).ne'

end KidsListing.Binary64
