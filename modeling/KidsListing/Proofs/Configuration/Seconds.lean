import KidsListing.Configuration.Seconds
import KidsListing.Proofs.Number.Positional
import KidsListing.Proofs.Number.Rounding

/-!
# Texts of numbers of seconds

A text spells a number when it is a sign and a decimal numeral, or a sign and a word, once
the blanks around it and the underscores between its digits are left out and its digits are
written in ASCII.  The reader accepts exactly these texts, and a numeral becomes what its
value becomes in the format.
-/

namespace KidsListing.Text

/-- Each underscore stands between two digits.  The first argument is the character before
the text. -/
def Grouped (last : Option Char) (text : List Char) : Prop :=
  ∀ left right, text = left ++ '_' :: right →
    (left.getLast?.or last).any isDigit ∧ right.head?.any isDigit

theorem grouped_cons_iff {last : Option Char} {c : Char} {rest : List Char} :
    Grouped last (c :: rest) ↔
      (c = '_' → last.any isDigit ∧ rest.head?.any isDigit) ∧ Grouped (some c) rest := by
  have hlast (left : List Char) :
      (c :: left).getLast?.or last = left.getLast?.or (some c) := by
    rw [List.getLast?_cons, Option.some_or, Option.or_some]
  constructor
  · intro h
    constructor
    · rintro rfl
      exact h [] rest rfl
    · rintro left right rfl
      rw [← hlast]
      exact h (c :: left) right rfl
  · rintro ⟨hfirst, hrest⟩ left right htext
    rcases List.cons_eq_append_iff.1 htext with ⟨rfl, hright⟩ | ⟨left, rfl, hright⟩
    · obtain ⟨hc, rfl⟩ := List.cons.inj hright
      exact hfirst hc.symm
    · rw [hlast]
      exact hrest left right hright

theorem withoutUnderscores?_eq_some_iff {last : Option Char} {text plain : List Char} :
    withoutUnderscores? last text = some plain ↔
      Grouped last text ∧ text.filter (· ≠ '_') = plain := by
  induction text generalizing last plain with
  | nil =>
      rw [withoutUnderscores?, Option.some.injEq, List.filter_nil, and_iff_right]
      intro left right hnil
      exact absurd hnil.symm (List.append_ne_nil_of_right_ne_nil _ (List.cons_ne_nil _ _))
  | cons c rest ih =>
      rw [withoutUnderscores?, grouped_cons_iff]
      by_cases hc : c = '_'
      · rw [if_pos hc, List.filter_cons_of_neg (by simpa using hc)]
        by_cases hdigits : last.any isDigit ∧ rest.head?.any isDigit
        · rw [if_pos (Bool.and_eq_true_iff.2 hdigits), ih, and_iff_right fun _ => hdigits]
        · rw [if_neg (mt Bool.and_eq_true_iff.1 hdigits)]
          exact iff_of_false nofun fun h => hdigits (h.1.1 hc)
      · rw [if_neg hc, List.filter_cons_of_pos (by simpa using hc), Option.map_eq_some_iff,
          and_iff_right fun hunder => absurd hunder hc]
        constructor
        · rintro ⟨others, hothers, rfl⟩
          obtain ⟨hgrouped, rfl⟩ := ih.1 hothers
          exact ⟨hgrouped, rfl⟩
        · rintro ⟨hgrouped, rfl⟩
          exact ⟨_, ih.2 ⟨hgrouped, rfl⟩, rfl⟩

end KidsListing.Text

namespace KidsListing.Seconds

open KidsListing.Binary64 (Represents)
open KidsListing.Text (isDigit ofDigits trim Grouped)

/-! ## Signs -/

inductive Sign : List Char → Bool → Prop where
  | absent : Sign [] false
  | plus : Sign ['+'] false
  | minus : Sign ['-'] true

def Unsigned (text : List Char) : Prop :=
  ∀ c, text.head? = some c → c ≠ '-' ∧ c ≠ '+'

theorem signed_of_unsigned {text : List Char} (h : Unsigned text) :
    signed text = (false, text) := by
  unfold signed
  split
  · exact absurd rfl (h '-' rfl).1
  · exact absurd rfl (h '+' rfl).2
  · rfl

theorem signed_append {sign text : List Char} {negative : Bool} (hsign : Sign sign negative)
    (h : Unsigned text) : signed (sign ++ text) = (negative, text) := by
  cases hsign with
  | absent => exact signed_of_unsigned h
  | plus => rfl
  | minus => rfl

theorem exists_sign (text : List Char) :
    ∃ sign, Sign sign (signed text).1 ∧ text = sign ++ (signed text).2 := by
  unfold signed
  split
  · exact ⟨['-'], .minus, rfl⟩
  · exact ⟨['+'], .plus, rfl⟩
  · exact ⟨[], .absent, rfl⟩

/-! ## Numerals -/

/-- A power of ten, with its mark before it when there is one. -/
inductive Power : List Char → ℤ → Prop where
  | absent : Power [] 0
  | marked {mark : Char} {sign digits : List Char} {negative : Bool} :
      mark = 'e' ∨ mark = 'E' → Sign sign negative → digits ≠ [] → digits.all isDigit →
      Power (mark :: (sign ++ digits)) (if negative then -(ofDigits digits) else ofDigits digits)

/-- Digits before and after a point, which may be left out when there are none after it. -/
inductive Pointed : List Char → List Char → List Char → Prop where
  | whole (units : List Char) : Pointed units units []
  | point (units places : List Char) : Pointed (units ++ '.' :: places) units places

/-- An unsigned decimal numeral and its value. -/
inductive Magnitude : List Char → ℚ → Prop where
  | mk {digits power units places : List Char} {exponent : ℤ} :
      Pointed digits units places → units.all isDigit → places.all isDigit →
      units ++ places ≠ [] → Power power exponent →
      Magnitude (digits ++ power)
        ((ofDigits units + ofDigits places / 10 ^ places.length) * 10 ^ exponent)

theorem ne_of_isDigit {c d : Char} (hc : isDigit c) (hd : isDigit d = false) : c ≠ d := by
  rintro rfl
  rw [hc] at hd
  cases hd

theorem unsigned_of_digits {digits : List Char} (h : digits.all isDigit) : Unsigned digits := by
  intro c hc
  have hdigit := List.all_eq_true.1 h c (List.mem_of_head? hc)
  exact ⟨ne_of_isDigit hdigit (by decide), ne_of_isDigit hdigit (by decide)⟩

theorem exponent?_eq_some_iff {text : List Char} {exponent : ℤ} :
    exponent? text = some exponent ↔ Power text exponent := by
  constructor
  · intro h
    cases text with
    | nil =>
        obtain rfl := Option.some.inj h
        exact .absent
    | cons mark rest =>
        rw [exponent?] at h
        simp only at h
        split at h
        · rename_i hshape
          obtain ⟨hmark, hsome, hdigits⟩ := hshape
          obtain ⟨sign, hsign, hrest⟩ := exists_sign rest
          obtain rfl := Option.some.inj h
          have hpower := Power.marked hmark hsign hsome hdigits
          rwa [← hrest] at hpower
        · cases h
  · intro h
    cases h with
    | absent => rfl
    | marked hmark hsign hsome hdigits =>
        have hsigned := signed_append hsign (unsigned_of_digits hdigits)
        simp only [exponent?, hsigned]
        rw [if_pos ⟨hmark, hsome, hdigits⟩]

/-- Neither a digit nor a point comes first. -/
def Detached (text : List Char) : Prop :=
  ∀ c, text.head? = some c → isDigit c = false ∧ c ≠ '.'

theorem Power.detached {text : List Char} {exponent : ℤ} (h : Power text exponent) :
    Detached text := by
  intro c hc
  cases h with
  | absent => cases hc
  | marked hmark =>
      obtain rfl := Option.some.inj hc
      rcases hmark with rfl | rfl
      · decide
      · decide

theorem takeWhile_digits_append {digits rest : List Char} (h : digits.all isDigit)
    (hrest : ∀ c, rest.head? = some c → isDigit c = false) :
    (digits ++ rest).takeWhile isDigit = digits ∧ (digits ++ rest).dropWhile isDigit = rest := by
  rw [List.takeWhile_append_of_pos (List.all_eq_true.1 h),
    List.dropWhile_append_of_pos (List.all_eq_true.1 h)]
  cases rest with
  | nil => exact ⟨List.append_nil _, rfl⟩
  | cons c rest =>
      have hc : ¬ isDigit c := Bool.eq_false_iff.1 (hrest c rfl)
      rw [List.takeWhile_cons_of_neg hc, List.dropWhile_cons_of_neg hc]
      exact ⟨List.append_nil _, rfl⟩

theorem decimal?_append {digits units places power : List Char} (negative : Bool)
    (hdigits : Pointed digits units places) (hunits : units.all isDigit)
    (hplaces : places.all isDigit) (hsome : units ++ places ≠ []) (hpower : Detached power) :
    decimal? negative (digits ++ power) =
      (exponent? power).map fun exponent =>
        Binary64.ofDecimal negative (ofDigits (units ++ places)) (exponent - places.length) := by
  have hany : ¬ (units.isEmpty && places.isEmpty) := by
    rw [Bool.and_eq_true, List.isEmpty_iff, List.isEmpty_iff, ← List.append_eq_nil_iff]
    exact hsome
  cases hdigits with
  | whole =>
      obtain ⟨htake, hdrop⟩ := takeWhile_digits_append hunits fun c hc => (hpower c hc).1
      -- No point follows the digits, so that the reader finds no places either.
      have hnone : ∀ rest, power ≠ '.' :: rest := by
        rintro rest rfl
        exact (hpower '.' rfl).2 rfl
      simp only [decimal?, htake, hdrop]
      rw [if_neg hany]
  | point =>
      have hpoint : ∀ c, ('.' :: (places ++ power)).head? = some c → isDigit c = false := by
        rintro c ⟨⟩
        decide
      obtain ⟨htake, hdrop⟩ := takeWhile_digits_append hunits hpoint
      obtain ⟨htake', hdrop'⟩ := takeWhile_digits_append hplaces fun c hc => (hpower c hc).1
      rw [List.append_assoc, List.cons_append]
      simp only [decimal?, htake, hdrop, htake', hdrop']
      rw [if_neg hany]

/-- The fraction of a numeral is scaled into its power of ten. -/
theorem scaled_value (units places : List Char) (exponent : ℤ) :
    (ofDigits (units ++ places) : ℚ) * 10 ^ (exponent - places.length) =
      (ofDigits units + ofDigits places / 10 ^ places.length) * 10 ^ exponent := by
  have hten : (10 : ℚ) ≠ 0 := by norm_num
  have hplaces : (10 : ℚ) ^ places.length ≠ 0 := pow_ne_zero _ hten
  calc
    (ofDigits (units ++ places) : ℚ) * 10 ^ (exponent - places.length) =
        (10 ^ places.length * ofDigits units + ofDigits places) *
          (10 ^ exponent / 10 ^ places.length) := by
      rw [Text.ofDigits_append_digits, zpow_sub₀ hten, zpow_natCast, Nat.pow_eq]
      push_cast
      rfl
    _ = (10 ^ places.length * ofDigits units + ofDigits places) / 10 ^ places.length *
          10 ^ exponent := by
      rw [mul_div_assoc', div_mul_eq_mul_div]
    _ = (ofDigits units + ofDigits places / 10 ^ places.length) * 10 ^ exponent := by
      rw [add_div, mul_div_cancel_left₀ _ hplaces]

theorem exists_decimal?_of_magnitude (negative : Bool) {text : List Char} {q : ℚ}
    (h : Magnitude text q) :
    ∃ value, decimal? negative text = some value ∧ Represents value negative q := by
  cases h with
  | mk hdigits hunits hplaces hsome hpower =>
      rw [decimal?_append negative hdigits hunits hplaces hsome hpower.detached,
        exponent?_eq_some_iff.2 hpower, ← scaled_value]
      exact ⟨_, rfl, Binary64.represents_ofDecimal negative _ _⟩

/-- The text is taken apart at the end of its digits, after the point when one stands
there. -/
theorem exists_pointed (negative : Bool) (text : List Char) :
    ∃ digits units places power, text = digits ++ power ∧ Pointed digits units places ∧
      units.all isDigit ∧ places.all isDigit ∧
      decimal? negative text =
        if units.isEmpty && places.isEmpty then none
        else (exponent? power).map fun exponent =>
          Binary64.ofDecimal negative (ofDigits (units ++ places)) (exponent - places.length) := by
  have htext : text = text.takeWhile isDigit ++ text.dropWhile isDigit :=
    List.takeWhile_append_dropWhile.symm
  simp only [decimal?]
  split
  · rename_i rest hpoint
    refine ⟨_, _, _, rest.dropWhile isDigit, ?_, .point _ (rest.takeWhile isDigit),
      List.all_takeWhile, List.all_takeWhile, rfl⟩
    rw [List.append_assoc, List.cons_append, List.takeWhile_append_dropWhile, ← hpoint]
    exact htext
  · exact ⟨_, _, [], _, htext, .whole _, List.all_takeWhile, rfl, rfl⟩

theorem magnitude_of_decimal? {negative : Bool} {text : List Char} {value : Binary64}
    (h : decimal? negative text = some value) :
    ∃ q, Magnitude text q ∧ Represents value negative q := by
  obtain ⟨digits, units, places, power, rfl, hdigits, hunits, hplaces, hvalue⟩ :=
    exists_pointed negative text
  rw [hvalue] at h
  split at h
  · cases h
  · rename_i hsome
    rw [Bool.and_eq_true, List.isEmpty_iff, List.isEmpty_iff, ← List.append_eq_nil_iff] at hsome
    obtain ⟨exponent, hexponent, rfl⟩ := Option.map_eq_some_iff.1 h
    refine ⟨_, .mk hdigits hunits hplaces hsome (exponent?_eq_some_iff.1 hexponent), ?_⟩
    rw [← scaled_value]
    exact Binary64.represents_ofDecimal negative _ _

/-! ## Words -/

/-- A word for infinity, in letters of either case. -/
def SpellsInfinity (text : List Char) : Prop :=
  text.map Char.toLower = "inf".toList ∨ text.map Char.toLower = "infinity".toList

instance (text : List Char) : Decidable (SpellsInfinity text) :=
  inferInstanceAs (Decidable (_ ∨ _))

def SpellsNan (text : List Char) : Prop :=
  text.map Char.toLower = "nan".toList

instance (text : List Char) : Decidable (SpellsNan text) :=
  inferInstanceAs (Decidable (_ = _))

/-- What a text without a sign spells with a sign. -/
def magnitude? (negative : Bool) (text : List Char) : Option Binary64 :=
  if SpellsInfinity text then some (.infinite negative)
  else if SpellsNan text then some .nan
  else decimal? negative text

theorem number?_eq (text : List Char) :
    number? text =
      (Text.withoutUnderscores? none ((trim text).map plainDigit)).bind fun plain =>
        magnitude? (signed plain).1 (signed plain).2 := by
  have hword (body : List Char) (word : String) :
      String.ofList (body.map Char.toLower) = word ↔ body.map Char.toLower = word.toList := by
    rw [← String.toList_inj, String.toList_ofList]
  simp only [number?, hword]
  rfl

theorem head_of_map_toLower {text : List Char} {first : Char} {word : List Char}
    (h : text.map Char.toLower = first :: word) {c : Char} (hc : text.head? = some c) :
    c.toLower = first := by
  have hhead := congrArg List.head? h
  rw [List.head?_map, hc] at hhead
  exact Option.some.inj hhead

theorem SpellsInfinity.head {text : List Char} (h : SpellsInfinity text) {c : Char}
    (hc : text.head? = some c) : c.toLower = 'i' := by
  rcases h with h | h
  · exact head_of_map_toLower h hc
  · exact head_of_map_toLower h hc

theorem SpellsInfinity.unsigned {text : List Char} (h : SpellsInfinity text) :
    Unsigned text := by
  intro c hc
  have hlower := h.head hc
  constructor
  · rintro rfl
    exact absurd hlower (by decide)
  · rintro rfl
    exact absurd hlower (by decide)

/-- A numeral begins with a digit or with its point. -/
theorem Magnitude.head {text : List Char} {q : ℚ} (h : Magnitude text q) {c : Char}
    (hc : text.head? = some c) : isDigit c ∨ c = '.' := by
  cases h with
  | mk hdigits hunits hplaces hsome hpower =>
      rename_i digits power units places exponent
      cases hdigits with
      | whole =>
          rw [List.append_nil] at hsome
          rw [List.head?_append_of_ne_nil _ hsome] at hc
          exact .inl (List.all_eq_true.1 hunits c (List.mem_of_head? hc))
      | point =>
          cases units with
          | nil =>
              obtain rfl := Option.some.inj hc
              exact .inr rfl
          | cons d units =>
              obtain rfl := Option.some.inj hc
              exact .inl (List.all_eq_true.1 hunits d List.mem_cons_self)

theorem toLower_of_isDigit {c : Char} (h : isDigit c) : c.toLower = c := by
  have hupper : c ≤ '9' := of_decide_eq_true (Bool.and_eq_true_iff.1 h).2
  have hletter : ¬ (c.val ≥ 'A'.val ∧ c.val ≤ 'Z'.val) := by
    rintro ⟨hA, -⟩
    exact absurd (UInt32.le_trans hA hupper) (by decide)
  exact dif_neg hletter

theorem Magnitude.unsigned {text : List Char} {q : ℚ} (h : Magnitude text q) :
    Unsigned text := by
  intro c hc
  rcases h.head hc with hdigit | rfl
  · exact ⟨ne_of_isDigit hdigit (by decide), ne_of_isDigit hdigit (by decide)⟩
  · decide

/-- A numeral is no word that begins with a letter. -/
theorem Magnitude.ne_word {text : List Char} {q : ℚ} (h : Magnitude text q) {first : Char}
    {word : List Char} (hdigit : isDigit first = false) (hpoint : first ≠ '.') :
    text.map Char.toLower ≠ first :: word := by
  intro hword
  cases text with
  | nil => cases hword
  | cons c rest =>
      have hlower : c.toLower = first := head_of_map_toLower hword rfl
      rcases h.head rfl with hc | rfl
      · rw [toLower_of_isDigit hc] at hlower
        exact ne_of_isDigit hc hdigit hlower
      · exact hpoint hlower.symm

theorem magnitude?_of_magnitude (negative : Bool) {text : List Char} {q : ℚ}
    (h : Magnitude text q) :
    ∃ value, magnitude? negative text = some value ∧ Represents value negative q := by
  have hinfinity : ¬ SpellsInfinity text := by
    rintro (hword | hword)
    · exact h.ne_word (by decide) (by decide) hword
    · exact h.ne_word (by decide) (by decide) hword
  have hnan : ¬ SpellsNan text := h.ne_word (by decide) (by decide)
  rw [magnitude?, if_neg hinfinity, if_neg hnan]
  exact exists_decimal?_of_magnitude negative h

/-! ## Numbers -/

/-- But for blanks around it, underscores between digits and the script of its digits, the
text is a sign and another text. -/
def Reads (text : List Char) (negative : Bool) (unsigned : List Char) : Prop :=
  Grouped none ((trim text).map plainDigit) ∧
    ∃ sign, Sign sign negative ∧
      ((trim text).map plainDigit).filter (· ≠ '_') = sign ++ unsigned

/-- The text is a decimal numeral for the positive or negative magnitude. -/
def Denotes (text : List Char) (negative : Bool) (q : ℚ) : Prop :=
  ∃ unsigned, Reads text negative unsigned ∧ Magnitude unsigned q

def DenotesInfinity (text : List Char) (negative : Bool) : Prop :=
  ∃ unsigned, Reads text negative unsigned ∧ SpellsInfinity unsigned

section Reads

variable {text unsigned : List Char} {negative : Bool}

theorem number?_of_reads (h : Reads text negative unsigned) (hunsigned : Unsigned unsigned) :
    number? text = magnitude? negative unsigned := by
  obtain ⟨hgrouped, sign, hsign, hplain⟩ := h
  rw [number?_eq, Text.withoutUnderscores?_eq_some_iff.2 ⟨hgrouped, hplain⟩, Option.bind_some,
    signed_append hsign hunsigned]

theorem exists_reads_of_number? {value : Binary64} (h : number? text = some value) :
    ∃ negative unsigned, Reads text negative unsigned ∧
      magnitude? negative unsigned = some value := by
  rw [number?_eq] at h
  obtain ⟨plain, hplain, hvalue⟩ := Option.bind_eq_some_iff.1 h
  obtain ⟨hgrouped, hfilter⟩ := Text.withoutUnderscores?_eq_some_iff.1 hplain
  obtain ⟨sign, hsign, hsigned⟩ := exists_sign plain
  exact ⟨_, _, ⟨hgrouped, sign, hsign, hfilter.trans hsigned⟩, hvalue⟩

end Reads

section Denotes

variable {text : List Char} {negative : Bool}

theorem number?_of_denotes {q : ℚ} (h : Denotes text negative q) :
    ∃ value, number? text = some value ∧ Represents value negative q := by
  obtain ⟨unsigned, hreads, hmagnitude⟩ := h
  rw [number?_of_reads hreads hmagnitude.unsigned]
  exact magnitude?_of_magnitude negative hmagnitude

theorem number?_of_denotesInfinity (h : DenotesInfinity text negative) :
    number? text = some (.infinite negative) := by
  obtain ⟨unsigned, hreads, hinfinity⟩ := h
  rw [number?_of_reads hreads hinfinity.unsigned, magnitude?, if_pos hinfinity]

/-- Every number that is read is what a numeral is for, infinite or not a number. -/
theorem denotes_of_number? {value : Binary64} (h : number? text = some value) :
    (∃ negative q, Denotes text negative q ∧ Represents value negative q) ∨
      (∃ negative, DenotesInfinity text negative ∧ value = .infinite negative) ∨
      value = .nan := by
  obtain ⟨negative, unsigned, hreads, hvalue⟩ := exists_reads_of_number? h
  rw [magnitude?] at hvalue
  split at hvalue
  · rename_i hinfinity
    exact .inr (.inl ⟨negative, ⟨unsigned, hreads, hinfinity⟩, (Option.some.inj hvalue).symm⟩)
  · split at hvalue
    · exact .inr (.inr (Option.some.inj hvalue).symm)
    · obtain ⟨q, hmagnitude, hrepresents⟩ := magnitude_of_decimal? hvalue
      exact .inl ⟨negative, q, ⟨unsigned, hreads, hmagnitude⟩, hrepresents⟩

end Denotes

end KidsListing.Seconds
