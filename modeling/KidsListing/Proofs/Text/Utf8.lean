import KidsListing.Text.Utf8

/-!
# The decoder reads UTF-8

The decoder gives a text for the octets that encode it, and for no other octets.
What may follow the first octet of a sequence is stated once, as `Completes`:
the encodings of characters are exactly the sequences that are completed, and an
octet that completes nothing leaves an ill-formed part behind, which the decoder
never takes back.
-/

namespace KidsListing.Text.Utf8

open String (utf8EncodeChar)

/-- The octets that complete the sequence under way, and the character that they
complete it to. -/
inductive Completes : Pending → List UInt8 → Char → Prop where
  | last {p : Pending} {b : UInt8} (howed : p.owed = 1) (hlow : p.low ≤ b)
      (hhigh : b ≤ p.high) : Completes p [b] (Char.ofNat (64 * p.bits + b.toNat % 64))
  | more {p : Pending} {b : UInt8} {rest : List UInt8} {c : Char} (howed : p.owed ≠ 1)
      (hlow : p.low ≤ b) (hhigh : b ≤ p.high)
      (hrest : Completes ⟨p.owed - 1, 0x80, 0xBF, 64 * p.bits + b.toNat % 64⟩ rest c) :
      Completes p (b :: rest) c

section Completes

variable {low high : UInt8} {bits : Nat} {octets : List UInt8} {c : Char}

theorem completes_one_iff :
    Completes ⟨1, low, high, bits⟩ octets c ↔
      ∃ t, octets = [t] ∧ low ≤ t ∧ t ≤ high ∧
        c = Char.ofNat (64 * bits + t.toNat % 64) := by
  constructor
  · intro h
    cases h with
    | last howed hlow hhigh => exact ⟨_, rfl, hlow, hhigh, rfl⟩
    | more howed hlow hhigh hrest => exact absurd rfl howed
  · rintro ⟨t, rfl, hlow, hhigh, rfl⟩
    exact .last rfl hlow hhigh

theorem completes_succ_iff {n : Nat} :
    Completes ⟨n + 2, low, high, bits⟩ octets c ↔
      ∃ t rest, octets = t :: rest ∧ low ≤ t ∧ t ≤ high ∧
        Completes ⟨n + 1, 0x80, 0xBF, 64 * bits + t.toNat % 64⟩ rest c := by
  constructor
  · intro h
    cases h with
    | last howed hlow hhigh => cases howed
    | more howed hlow hhigh hrest => exact ⟨_, _, rfl, hlow, hhigh, hrest⟩
  · rintro ⟨t, rest, rfl, hlow, hhigh, hrest⟩
    exact .more (by simp) hlow hhigh hrest

theorem completes_two_iff :
    Completes ⟨2, low, high, bits⟩ octets c ↔
      ∃ t u, octets = [t, u] ∧ low ≤ t ∧ t ≤ high ∧ 0x80 ≤ u ∧ u ≤ 0xBF ∧
        c = Char.ofNat (64 * (64 * bits + t.toNat % 64) + u.toNat % 64) := by
  rw [completes_succ_iff]
  constructor
  · rintro ⟨t, rest, rfl, hlow, hhigh, hrest⟩
    obtain ⟨u, rfl, hu, hu', rfl⟩ := completes_one_iff.1 hrest
    exact ⟨t, u, rfl, hlow, hhigh, hu, hu', rfl⟩
  · rintro ⟨t, u, rfl, hlow, hhigh, hu, hu', rfl⟩
    exact ⟨t, [u], rfl, hlow, hhigh, completes_one_iff.2 ⟨u, rfl, hu, hu', rfl⟩⟩

theorem completes_three_iff :
    Completes ⟨3, low, high, bits⟩ octets c ↔
      ∃ t u v, octets = [t, u, v] ∧ low ≤ t ∧ t ≤ high ∧ 0x80 ≤ u ∧ u ≤ 0xBF ∧
        0x80 ≤ v ∧ v ≤ 0xBF ∧
        c = Char.ofNat
          (64 * (64 * (64 * bits + t.toNat % 64) + u.toNat % 64) + v.toNat % 64) := by
  rw [completes_succ_iff]
  constructor
  · rintro ⟨t, rest, rfl, hlow, hhigh, hrest⟩
    obtain ⟨u, v, rfl, hu, hu', hv, hv', rfl⟩ := completes_two_iff.1 hrest
    exact ⟨t, u, v, rfl, hlow, hhigh, hu, hu', hv, hv', rfl⟩
  · rintro ⟨t, u, v, rfl, hlow, hhigh, hu, hu', hv, hv', rfl⟩
    exact ⟨t, [u, v], rfl, hlow, hhigh, completes_two_iff.2 ⟨u, v, rfl, hu, hu', hv, hv', rfl⟩⟩

end Completes

/-! ## The first octet -/

section Lead

variable {b : UInt8}

theorem lead_one (h : b.toNat < 0x80) : lead b = .single (Char.ofNat b.toNat) := by
  rw [lead, if_pos h]

theorem lead_two (h : 0xC2 ≤ b.toNat ∧ b.toNat < 0xE0) :
    lead b = .sequence ⟨1, 0x80, 0xBF, b.toNat - 0xC0⟩ := by
  rw [lead, if_neg (by omega), if_neg (by omega), if_pos h.2]

/-- Of three octets, the first two exclude overlong forms and surrogates. -/
theorem lead_three (h : 0xE0 ≤ b.toNat ∧ b.toNat < 0xF0) :
    lead b = .sequence ⟨2, if b.toNat = 0xE0 then 0xA0 else 0x80,
      if b.toNat = 0xED then 0x9F else 0xBF, b.toNat - 0xE0⟩ := by
  rw [lead]
  grind

/-- Of four octets, the first two exclude overlong forms and what is beyond the
last code point. -/
theorem lead_four (h : 0xF0 ≤ b.toNat ∧ b.toNat < 0xF5) :
    lead b = .sequence ⟨3, if b.toNat = 0xF0 then 0x90 else 0x80,
      if b.toNat = 0xF4 then 0x8F else 0xBF, b.toNat - 0xF0⟩ := by
  rw [lead]
  grind

theorem lead_illFormed (h : 0x80 ≤ b.toNat ∧ b.toNat < 0xC2 ∨ 0xF5 ≤ b.toNat) :
    lead b = .illFormed := by
  rw [lead]
  grind

end Lead

/-! ## Encodings of characters -/

section Encoding

theorem toNat_between {low b high : UInt8} (hlow : low ≤ b) (hhigh : b ≤ high) :
    low.toNat ≤ b.toNat ∧ b.toNat ≤ high.toNat :=
  ⟨UInt8.le_iff_toNat_le.1 hlow, UInt8.le_iff_toNat_le.1 hhigh⟩

theorem tail_of_toNat {t : UInt8} (h : 0x80 ≤ t.toNat ∧ t.toNat ≤ 0xBF) :
    0x80 ≤ t ∧ t ≤ 0xBF :=
  ⟨UInt8.le_iff_toNat_le.2 h.1, UInt8.le_iff_toNat_le.2 h.2⟩

/-- A lower bound that is raised in one case. -/
theorem ite_le_iff {p : Prop} [Decidable p] {raised low t : UInt8} (h : low ≤ raised) :
    (if p then raised else low) ≤ t ↔ low ≤ t ∧ (p → raised ≤ t) := by
  by_cases hp : p
  · rw [if_pos hp]
    exact ⟨fun ht => ⟨UInt8.le_trans h ht, fun _ => ht⟩, fun ht => ht.2 hp⟩
  · rw [if_neg hp]
    exact ⟨fun ht => ⟨ht, fun hp' => absurd hp' hp⟩, And.left⟩

/-- An upper bound that is lowered in one case. -/
theorem le_ite_iff {p : Prop} [Decidable p] {lowered high t : UInt8} (h : lowered ≤ high) :
    t ≤ (if p then lowered else high) ↔ t ≤ high ∧ (p → t ≤ lowered) := by
  by_cases hp : p
  · rw [if_pos hp]
    exact ⟨fun ht => ⟨UInt8.le_trans ht h, fun _ => ht⟩, fun ht => ht.2 hp⟩
  · rw [if_neg hp]
    exact ⟨fun ht => ⟨ht, fun hp' => absurd hp' hp⟩, And.left⟩

theorem ofNat_eq_of_toNat {n : Nat} {b : UInt8} (h : n = b.toNat) : UInt8.ofNat n = b := by
  rw [h, UInt8.ofNat_toNat]

theorem toNat_val_ofNat {n : Nat} (h : n.isValidChar) : (Char.ofNat n).val.toNat = n := by
  rw [Char.ofNat, dif_pos h]
  rfl

variable {b t u v : UInt8}

theorem encodeChar_one (h : b.toNat < 0x80) : utf8EncodeChar (Char.ofNat b.toNat) = [b] := by
  have hvalid : b.toNat.isValidChar := .inl (by omega)
  rw [utf8EncodeChar]
  simp only [toNat_val_ofNat hvalid]
  rw [if_pos (by omega), UInt8.ofNat_toNat]

theorem encodeChar_two (hb : 0xC2 ≤ b.toNat ∧ b.toNat < 0xE0)
    (ht : 0x80 ≤ t.toNat ∧ t.toNat ≤ 0xBF) :
    utf8EncodeChar (Char.ofNat (64 * (b.toNat - 0xC0) + t.toNat % 64)) = [b, t] := by
  have hvalid : (64 * (b.toNat - 0xC0) + t.toNat % 64).isValidChar := .inl (by omega)
  rw [utf8EncodeChar]
  simp only [toNat_val_ofNat hvalid]
  rw [if_neg (by omega), if_pos (by omega), ofNat_eq_of_toNat (b := b) (by omega),
    ofNat_eq_of_toNat (b := t) (by omega)]

theorem encodeChar_three (hb : 0xE0 ≤ b.toNat ∧ b.toNat < 0xF0)
    (ht : 0x80 ≤ t.toNat ∧ t.toNat ≤ 0xBF) (hoverlong : b.toNat = 0xE0 → 0xA0 ≤ t.toNat)
    (hsurrogate : b.toNat = 0xED → t.toNat ≤ 0x9F) (hu : 0x80 ≤ u.toNat ∧ u.toNat ≤ 0xBF) :
    utf8EncodeChar (Char.ofNat
      (64 * (64 * (b.toNat - 0xE0) + t.toNat % 64) + u.toNat % 64)) = [b, t, u] := by
  have hvalid : (64 * (64 * (b.toNat - 0xE0) + t.toNat % 64) + u.toNat % 64).isValidChar := by
    unfold Nat.isValidChar
    omega
  rw [utf8EncodeChar]
  simp only [toNat_val_ofNat hvalid]
  rw [if_neg (by omega), if_neg (by omega), if_pos (by omega),
    ofNat_eq_of_toNat (b := b) (by omega), ofNat_eq_of_toNat (b := t) (by omega),
    ofNat_eq_of_toNat (b := u) (by omega)]

theorem encodeChar_four (hb : 0xF0 ≤ b.toNat ∧ b.toNat < 0xF5)
    (ht : 0x80 ≤ t.toNat ∧ t.toNat ≤ 0xBF) (hoverlong : b.toNat = 0xF0 → 0x90 ≤ t.toNat)
    (hlast : b.toNat = 0xF4 → t.toNat ≤ 0x8F) (hu : 0x80 ≤ u.toNat ∧ u.toNat ≤ 0xBF)
    (hv : 0x80 ≤ v.toNat ∧ v.toNat ≤ 0xBF) :
    utf8EncodeChar (Char.ofNat
      (64 * (64 * (64 * (b.toNat - 0xF0) + t.toNat % 64) + u.toNat % 64) +
        v.toNat % 64)) = [b, t, u, v] := by
  have hvalid : (64 * (64 * (64 * (b.toNat - 0xF0) + t.toNat % 64) + u.toNat % 64) +
      v.toNat % 64).isValidChar := .inr (by omega)
  rw [utf8EncodeChar]
  simp only [toNat_val_ofNat hvalid]
  rw [if_neg (by omega), if_neg (by omega), if_neg (by omega),
    ofNat_eq_of_toNat (b := b) (by omega), ofNat_eq_of_toNat (b := t) (by omega),
    ofNat_eq_of_toNat (b := u) (by omega), ofNat_eq_of_toNat (b := v) (by omega)]

theorem encodeChar_of_single {c : Char} (h : lead b = .single c) : utf8EncodeChar c = [b] := by
  by_cases hone : b.toNat < 0x80
  · rw [lead_one hone] at h
    obtain rfl := Lead.single.inj h
    exact encodeChar_one hone
  · -- All other first octets announce a sequence or are ill-formed.
    exfalso
    by_cases hsequence : 0xC2 ≤ b.toNat ∧ b.toNat < 0xF5
    · by_cases htwo : b.toNat < 0xE0
      · rw [lead_two ⟨hsequence.1, htwo⟩] at h
        cases h
      · by_cases hthree : b.toNat < 0xF0
        · rw [lead_three (by omega)] at h
          cases h
        · rw [lead_four (by omega)] at h
          cases h
    · rw [lead_illFormed (by omega)] at h
      cases h

theorem encodeChar_of_completes {p : Pending} {tail : List UInt8} {c : Char}
    (hlead : lead b = .sequence p) (h : Completes p tail c) :
    utf8EncodeChar c = b :: tail := by
  by_cases hone : b.toNat < 0x80
  · rw [lead_one hone] at hlead
    cases hlead
  by_cases htwo : 0xC2 ≤ b.toNat ∧ b.toNat < 0xE0
  · rw [lead_two htwo] at hlead
    obtain rfl := Lead.sequence.inj hlead
    obtain ⟨t, rfl, hlow, hhigh, rfl⟩ := completes_one_iff.1 h
    exact encodeChar_two htwo (toNat_between hlow hhigh)
  by_cases hthree : 0xE0 ≤ b.toNat ∧ b.toNat < 0xF0
  · rw [lead_three hthree] at hlead
    obtain rfl := Lead.sequence.inj hlead
    obtain ⟨t, u, rfl, hlow, hhigh, hu, hu', rfl⟩ := completes_two_iff.1 h
    obtain ⟨ht, hoverlong⟩ := (ite_le_iff (by decide)).1 hlow
    obtain ⟨ht', hsurrogate⟩ := (le_ite_iff (by decide)).1 hhigh
    exact encodeChar_three hthree (toNat_between ht ht')
      (fun hfirst => UInt8.le_iff_toNat_le.1 (hoverlong hfirst))
      (fun hfirst => UInt8.le_iff_toNat_le.1 (hsurrogate hfirst)) (toNat_between hu hu')
  by_cases hfour : 0xF0 ≤ b.toNat ∧ b.toNat < 0xF5
  · rw [lead_four hfour] at hlead
    obtain rfl := Lead.sequence.inj hlead
    obtain ⟨t, u, v, rfl, hlow, hhigh, hu, hu', hv, hv', rfl⟩ := completes_three_iff.1 h
    obtain ⟨ht, hoverlong⟩ := (ite_le_iff (by decide)).1 hlow
    obtain ⟨ht', hlast⟩ := (le_ite_iff (by decide)).1 hhigh
    exact encodeChar_four hfour (toNat_between ht ht')
      (fun hfirst => UInt8.le_iff_toNat_le.1 (hoverlong hfirst))
      (fun hfirst => UInt8.le_iff_toNat_le.1 (hlast hfirst)) (toNat_between hu hu')
      (toNat_between hv hv')
  · rw [lead_illFormed (by omega)] at hlead
    cases hlead

section Announced

variable {c : Char}

theorem ofNat_eq_self {n : Nat} (h : n = c.val.toNat) : Char.ofNat n = c := by
  rw [h]
  exact Char.ofNat_toNat c

theorem toNat_octet {n : Nat} (h : n < 256) : (UInt8.ofNat n).toNat = n :=
  UInt8.toNat_ofNat_of_lt h

theorem announced_two (h : 0x80 ≤ c.val.toNat ∧ c.val.toNat < 0x800) :
    ∃ p, lead (.ofNat (c.val.toNat / 64 % 0x20 + 0xc0)) = .sequence p ∧
      Completes p [.ofNat (c.val.toNat % 0x40 + 0x80)] c := by
  have hfirst := toNat_octet (n := c.val.toNat / 64 % 0x20 + 0xc0) (by omega)
  have hlast := toNat_octet (n := c.val.toNat % 0x40 + 0x80) (by omega)
  obtain ⟨ht, ht'⟩ := tail_of_toNat (t := .ofNat (c.val.toNat % 0x40 + 0x80)) (by omega)
  refine ⟨_, lead_two (by omega), completes_one_iff.2 ⟨_, rfl, ht, ht', ?_⟩⟩
  exact (ofNat_eq_self (by omega)).symm

/-- A character is no surrogate, which bounds the second octet. -/
theorem announced_three (h : 0x800 ≤ c.val.toNat ∧ c.val.toNat < 0x10000) :
    ∃ p, lead (.ofNat (c.val.toNat / 4096 % 0x10 + 0xe0)) = .sequence p ∧
      Completes p [.ofNat (c.val.toNat / 64 % 0x40 + 0x80), .ofNat (c.val.toNat % 0x40 + 0x80)]
        c := by
  have hvalid : c.val.toNat < 0xD800 ∨ 0xDFFF < c.val.toNat ∧ c.val.toNat < 0x110000 :=
    c.valid
  have hfirst := toNat_octet (n := c.val.toNat / 4096 % 0x10 + 0xe0) (by omega)
  have hmiddle := toNat_octet (n := c.val.toNat / 64 % 0x40 + 0x80) (by omega)
  have hlast := toNat_octet (n := c.val.toNat % 0x40 + 0x80) (by omega)
  obtain ⟨ht, ht'⟩ := tail_of_toNat (t := .ofNat (c.val.toNat / 64 % 0x40 + 0x80)) (by omega)
  obtain ⟨hu, hu'⟩ := tail_of_toNat (t := .ofNat (c.val.toNat % 0x40 + 0x80)) (by omega)
  refine ⟨_, lead_three (by omega), completes_two_iff.2
    ⟨_, _, rfl, (ite_le_iff (by decide)).2 ⟨ht, fun _ => UInt8.le_iff_toNat_le.2 ?_⟩,
      (le_ite_iff (by decide)).2 ⟨ht', fun _ => UInt8.le_iff_toNat_le.2 ?_⟩, hu, hu', ?_⟩⟩
  · change 0xA0 ≤ _
    omega
  · change _ ≤ 0x9F
    omega
  · exact (ofNat_eq_self (by omega)).symm

/-- A character is not beyond the last code point, which bounds the second octet. -/
theorem announced_four (h : 0x10000 ≤ c.val.toNat) :
    ∃ p, lead (.ofNat (c.val.toNat / 262144 % 0x08 + 0xf0)) = .sequence p ∧
      Completes p [.ofNat (c.val.toNat / 4096 % 0x40 + 0x80),
        .ofNat (c.val.toNat / 64 % 0x40 + 0x80), .ofNat (c.val.toNat % 0x40 + 0x80)] c := by
  have hvalid : c.val.toNat < 0xD800 ∨ 0xDFFF < c.val.toNat ∧ c.val.toNat < 0x110000 :=
    c.valid
  have hfirst := toNat_octet (n := c.val.toNat / 262144 % 0x08 + 0xf0) (by omega)
  have hsecond := toNat_octet (n := c.val.toNat / 4096 % 0x40 + 0x80) (by omega)
  have hthird := toNat_octet (n := c.val.toNat / 64 % 0x40 + 0x80) (by omega)
  have hlast := toNat_octet (n := c.val.toNat % 0x40 + 0x80) (by omega)
  obtain ⟨ht, ht'⟩ := tail_of_toNat (t := .ofNat (c.val.toNat / 4096 % 0x40 + 0x80)) (by omega)
  obtain ⟨hu, hu'⟩ := tail_of_toNat (t := .ofNat (c.val.toNat / 64 % 0x40 + 0x80)) (by omega)
  obtain ⟨hv, hv'⟩ := tail_of_toNat (t := .ofNat (c.val.toNat % 0x40 + 0x80)) (by omega)
  refine ⟨_, lead_four (by omega), completes_three_iff.2
    ⟨_, _, _, rfl, (ite_le_iff (by decide)).2 ⟨ht, fun _ => UInt8.le_iff_toNat_le.2 ?_⟩,
      (le_ite_iff (by decide)).2 ⟨ht', fun _ => UInt8.le_iff_toNat_le.2 ?_⟩, hu, hu', hv, hv',
      ?_⟩⟩
  · change 0x90 ≤ _
    omega
  · change _ ≤ 0x8F
    omega
  · exact (ofNat_eq_self (by omega)).symm

/-- Whatever octets encode a character, the first announces the others. -/
theorem lead_of_encodeChar {tail : List UInt8} (h : utf8EncodeChar c = b :: tail) :
    lead b = .single c ∧ tail = [] ∨ ∃ p, lead b = .sequence p ∧ Completes p tail c := by
  rw [utf8EncodeChar] at h
  split at h
  · obtain ⟨rfl, rfl⟩ := List.cons.inj h
    have hfirst := toNat_octet (n := c.val.toNat) (by omega)
    left
    rw [lead_one (by omega), ofNat_eq_self hfirst]
    exact ⟨rfl, rfl⟩
  right
  split at h
  · obtain ⟨rfl, rfl⟩ := List.cons.inj h
    exact announced_two (by omega)
  split at h
  · obtain ⟨rfl, rfl⟩ := List.cons.inj h
    exact announced_three (by omega)
  · obtain ⟨rfl, rfl⟩ := List.cons.inj h
    exact announced_four (by omega)

end Announced

end Encoding

/-! ## The decoder -/

/-- What is decoded already is carried along. -/
theorem push_append (pending : Option Pending) (decoded done : List (Option Char))
    (b : UInt8) :
    Decoder.push ⟨pending, decoded ++ done⟩ b =
      ⟨(Decoder.push ⟨pending, decoded⟩ b).pending,
        (Decoder.push ⟨pending, decoded⟩ b).decoded ++ done⟩ := by
  have hrestart : ∀ decoded : List (Option Char),
      Decoder.restart ⟨none, decoded ++ done⟩ b =
        ⟨(Decoder.restart ⟨none, decoded⟩ b).pending,
          (Decoder.restart ⟨none, decoded⟩ b).decoded ++ done⟩ := by
    intro decoded
    simp only [Decoder.restart]
    cases lead b <;> rfl
  cases pending with
  | none => exact hrestart decoded
  | some p =>
      simp only [Decoder.push]
      split
      · split <;> rfl
      · exact hrestart (none :: decoded)

theorem foldl_push_append (octets : List UInt8) (pending : Option Pending)
    (decoded done : List (Option Char)) :
    (octets.foldl Decoder.push ⟨pending, decoded ++ done⟩).finish =
      done.reverse ++ (octets.foldl Decoder.push ⟨pending, decoded⟩).finish := by
  induction octets generalizing pending decoded with
  | nil => cases pending <;> simp [Decoder.finish]
  | cons b rest ih =>
      rw [List.foldl_cons, List.foldl_cons, push_append]
      exact ih _ _

theorem foldl_push_of_completes {p : Pending} {octets : List UInt8} {c : Char}
    (h : Completes p octets c) (done : List (Option Char)) :
    octets.foldl Decoder.push ⟨some p, done⟩ = ⟨none, some c :: done⟩ := by
  induction h with
  | last howed hlow hhigh =>
      simp only [List.foldl_cons, List.foldl_nil, Decoder.push]
      rw [if_pos ⟨hlow, hhigh⟩, if_pos howed]
  | more howed hlow hhigh hrest ih =>
      rw [List.foldl_cons, ← ih]
      simp only [Decoder.push]
      rw [if_pos ⟨hlow, hhigh⟩, if_neg howed]

theorem foldl_push_encodeChar (c : Char) :
    (utf8EncodeChar c).foldl Decoder.push {} = ⟨none, [some c]⟩ := by
  cases h : utf8EncodeChar c with
  | nil => exact absurd (congrArg List.length h) (by simp [Nat.ne_of_gt c.utf8Size_pos])
  | cons b tail =>
      rw [List.foldl_cons]
      rcases lead_of_encodeChar h with ⟨hlead, rfl⟩ | ⟨p, hlead, hcompletes⟩
      · simp only [Decoder.push, Decoder.restart, hlead]
        rfl
      · simp only [Decoder.push, Decoder.restart, hlead]
        exact foldl_push_of_completes hcompletes []

theorem decode_encodeChar_append (c : Char) (octets : List UInt8) :
    decode (utf8EncodeChar c ++ octets) = some c :: decode octets := by
  rw [decode, List.foldl_append, foldl_push_encodeChar]
  exact foldl_push_append octets none [] [some c]

/-- An ill-formed part stays. -/
theorem none_mem_of_none_mem_decoded (octets : List UInt8) (pending : Option Pending)
    {done : List (Option Char)} (h : none ∈ done) :
    none ∈ (octets.foldl Decoder.push ⟨pending, done⟩).finish := by
  have hcarried := foldl_push_append octets pending [] done
  rw [List.nil_append] at hcarried
  rw [hcarried]
  exact List.mem_append_left _ (List.mem_reverse.2 h)

/-- Octets that do not complete the sequence under way leave an ill-formed part. -/
theorem completes_or_none_mem (octets : List UInt8) (p : Pending)
    (done : List (Option Char)) :
    (∃ tail rest c, octets = tail ++ rest ∧ Completes p tail c) ∨
      none ∈ (octets.foldl Decoder.push ⟨some p, done⟩).finish := by
  induction octets generalizing p with
  | nil => exact .inr (by simp [Decoder.finish])
  | cons b octets ih =>
      rw [List.foldl_cons]
      by_cases hbetween : p.low ≤ b ∧ b ≤ p.high
      · by_cases howed : p.owed = 1
        · exact .inl ⟨[b], octets, _, rfl, .last howed hbetween.1 hbetween.2⟩
        · simp only [Decoder.push]
          rw [if_pos hbetween, if_neg howed]
          rcases ih ⟨p.owed - 1, 0x80, 0xBF, 64 * p.bits + b.toNat % 64⟩ with
            ⟨tail, rest, c, rfl, hcompletes⟩ | hnone
          · exact .inl ⟨b :: tail, rest, c, rfl,
              .more howed hbetween.1 hbetween.2 hcompletes⟩
          · exact .inr hnone
      · right
        simp only [Decoder.push]
        rw [if_neg hbetween]
        apply none_mem_of_none_mem_decoded
        cases lead b <;> simp

theorem exists_encodeChar_or_none_mem {octets : List UInt8} (h : octets ≠ []) :
    (∃ c rest, octets = utf8EncodeChar c ++ rest) ∨ none ∈ decode octets := by
  cases octets with
  | nil => exact absurd rfl h
  | cons b octets =>
      rw [decode, List.foldl_cons]
      cases hlead : lead b with
      | single c => exact .inl ⟨c, octets, by rw [encodeChar_of_single hlead]; rfl⟩
      | illFormed =>
          right
          simp only [Decoder.push, Decoder.restart, hlead]
          exact none_mem_of_none_mem_decoded octets none List.mem_cons_self
      | sequence p =>
          simp only [Decoder.push, Decoder.restart, hlead]
          rcases completes_or_none_mem octets p [] with
            ⟨tail, rest, c, rfl, hcompletes⟩ | hnone
          · exact .inl ⟨c, rest, by rw [encodeChar_of_completes hlead hcompletes]; rfl⟩
          · exact .inr hnone

/-! ## Whole texts -/

theorem decode_eq_map_some_iff {octets : List UInt8} {text : List Char} :
    decode octets = text.map some ↔ octets = text.flatMap utf8EncodeChar := by
  constructor
  · intro h
    induction text generalizing octets with
    | nil =>
        apply Classical.byContradiction
        intro hsome
        rcases exists_encodeChar_or_none_mem hsome with ⟨c, rest, rfl⟩ | hnone
        · rw [decode_encodeChar_append] at h
          cases h
        · rw [h] at hnone
          cases hnone
    | cons c text ih =>
        have hsome : octets ≠ [] := by
          rintro rfl
          cases h
        rcases exists_encodeChar_or_none_mem hsome with ⟨d, rest, rfl⟩ | hnone
        · rw [decode_encodeChar_append, List.map_cons] at h
          obtain ⟨hhead, htail⟩ := List.cons.inj h
          rw [Option.some.inj hhead, ih htail, List.flatMap_cons]
        · rw [h] at hnone
          simp at hnone
  · rintro rfl
    induction text with
    | nil => rfl
    | cons c text ih => rw [List.flatMap_cons, decode_encodeChar_append, ih, List.map_cons]

theorem map_some_filterMap_id {decoded : List (Option Char)}
    (h : decoded.all Option.isSome) : (decoded.filterMap id).map some = decoded := by
  induction decoded with
  | nil => rfl
  | cons c decoded ih =>
      rw [List.all_cons, Bool.and_eq_true] at h
      cases c with
      | none => cases h.1
      | some c =>
          rw [List.filterMap_cons_some (f := id) rfl, List.map_cons, ih h.2]

theorem decode?_eq_some_iff_decode {octets : List UInt8} {text : List Char} :
    decode? octets = some text ↔ decode octets = text.map some := by
  rw [decode?]
  constructor
  · intro h
    split at h
    · rename_i hall
      rw [← Option.some.inj h, map_some_filterMap_id hall]
    · cases h
  · intro h
    have hall : (text.map some).all Option.isSome := by simp
    rw [h]
    simp only [hall, if_true]
    rw [List.filterMap_map, Function.id_comp, List.filterMap_some]

theorem loop_toList_toByteArray (octets read : List UInt8) (i : Nat) :
    ByteArray.toList.loop octets.toByteArray i read = read.reverse ++ octets.drop i := by
  have hsize : octets.toByteArray.size = octets.length := List.size_toByteArray
  fun_induction ByteArray.toList.loop octets.toByteArray i read with
  | case1 i read hi ih =>
      rw [ih]
      have hlt : i < octets.length := hsize ▸ hi
      have hget : octets.toByteArray.get! i = octets[i] := by
        simp [ByteArray.get!, hlt]
      rw [hget, List.reverse_cons, List.append_assoc, List.drop_eq_getElem_cons hlt]
      rfl
  | case2 i read hi =>
      have hle : octets.length ≤ i := by omega
      rw [List.drop_of_length_le hle, List.append_nil]

theorem toList_toByteArray (octets : List UInt8) : octets.toByteArray.toList = octets :=
  loop_toList_toByteArray octets [] 0

theorem encode_ofList (text : List Char) :
    encode (String.ofList text) = text.flatMap utf8EncodeChar :=
  toList_toByteArray _

/-- Exactly the octets that encode a text are decoded, and they give that text. -/
theorem decode?_eq_some_iff {octets : List UInt8} {text : List Char} :
    decode? octets = some text ↔ octets = encode (String.ofList text) := by
  rw [decode?_eq_some_iff_decode, decode_eq_map_some_iff, encode_ofList]

theorem decode?_encode (text : String) : decode? (encode text) = some text.toList := by
  rw [decode?_eq_some_iff, String.ofList_toList]

theorem encode_injective {text other : String} (h : encode text = encode other) :
    text = other := by
  have hdecoded := decode?_encode text
  rw [h, decode?_encode] at hdecoded
  exact (String.toList_inj.1 (Option.some.inj hdecoded)).symm

end KidsListing.Text.Utf8
