import KidsListing.Text.Blank
import Mathlib.Data.List.DropRight
import Mathlib.Data.List.Infix

/-!
# Trimming

Trimming cuts blanks off both ends and nothing else, so that a text is its
trimmed form between two runs of blanks, and blanks at an end make no
difference to it.  The trimmed texts are those with no blank at either end.
-/

namespace KidsListing.Text

/-! ## Members of a class -/

section TrimBy

variable {α : Type} {blank : α → Bool}

theorem trimBy_eq (text : List α) :
    trimBy blank text = (text.dropWhile blank).rdropWhile blank := rfl

theorem exists_eq_append_trimBy (blank : α → Bool) (text : List α) :
    ∃ left right, (∀ c ∈ left, blank c) ∧ (∀ c ∈ right, blank c) ∧
      text = left ++ trimBy blank text ++ right := by
  refine ⟨text.takeWhile blank, (text.dropWhile blank).rtakeWhile blank, ?_, ?_, ?_⟩
  · exact fun c hc => List.mem_takeWhile_imp hc
  · exact fun c hc => List.mem_rtakeWhile_imp hc
  · rw [trimBy_eq, List.append_assoc, List.rdropWhile_append_rtakeWhile,
      List.takeWhile_append_dropWhile]

theorem trimBy_isInfix (blank : α → Bool) (text : List α) : trimBy blank text <:+: text := by
  obtain ⟨left, right, -, -, htext⟩ := exists_eq_append_trimBy blank text
  exact ⟨left, right, htext.symm⟩

theorem trimBy_append_of_blank_left {left : List α} (h : ∀ c ∈ left, blank c)
    (text : List α) : trimBy blank (left ++ text) = trimBy blank text := by
  rw [trimBy_eq, trimBy_eq, List.dropWhile_append_of_pos h]

theorem rdropWhile_append_of_blank {right : List α} (h : ∀ c ∈ right, blank c)
    (text : List α) :
    (text ++ right).rdropWhile blank = text.rdropWhile blank := by
  have hreverse : ∀ c ∈ right.reverse, blank c :=
    fun c hc => h c (List.mem_reverse.1 hc)
  rw [List.rdropWhile, List.rdropWhile, List.reverse_append,
    List.dropWhile_append_of_pos hreverse]

theorem trimBy_append_of_blank_right {right : List α} (h : ∀ c ∈ right, blank c)
    (text : List α) : trimBy blank (text ++ right) = trimBy blank text := by
  rw [trimBy_eq, trimBy_eq, List.dropWhile_append]
  by_cases hall : (text.dropWhile blank).isEmpty
  · -- There is nothing to trim, on either side.
    have hnone : right.dropWhile blank = [] := List.dropWhile_eq_nil_iff.2 h
    rw [if_pos hall, hnone, List.isEmpty_iff.1 hall]
  · rw [if_neg hall, rdropWhile_append_of_blank h]

theorem trimBy_blank_append_blank {left right : List α} (hleft : ∀ c ∈ left, blank c)
    (hright : ∀ c ∈ right, blank c) (text : List α) :
    trimBy blank (left ++ text ++ right) = trimBy blank text := by
  rw [trimBy_append_of_blank_right hright, trimBy_append_of_blank_left hleft]

theorem trimBy_trimBy (text : List α) :
    trimBy blank (trimBy blank text) = trimBy blank text := by
  obtain ⟨left, right, hleft, hright, htext⟩ := exists_eq_append_trimBy blank text
  calc
    trimBy blank (trimBy blank text) = trimBy blank (left ++ trimBy blank text ++ right) :=
      (trimBy_blank_append_blank hleft hright _).symm
    _ = trimBy blank text := by rw [← htext]

/-- Neither end of a text is in the class. -/
def BareEndsBy (blank : α → Bool) (text : List α) : Prop :=
  (∀ c ∈ text.head?, blank c = false) ∧ ∀ c ∈ text.getLast?, blank c = false

instance (text : List α) : Decidable (BareEndsBy blank text) :=
  @instDecidableAnd _ _ (Option.decidableForallMem _) (Option.decidableForallMem _)

/-- A blank at an end is cut off, so that less is left than there was. -/
theorem bareEndsBy_of_trimBy_eq {text : List α} (h : trimBy blank text = text) :
    BareEndsBy blank text := by
  constructor
  · intro c hc
    obtain ⟨rest, rfl⟩ := List.head?_eq_some_iff.1 hc
    by_contra hblank
    have hleft : ∀ d ∈ [c], blank d := by simpa using hblank
    have hcut : trimBy blank rest = c :: rest :=
      (trimBy_append_of_blank_left hleft rest).symm.trans h
    have hlength := (trimBy_isInfix blank rest).length_le
    rw [hcut, List.length_cons] at hlength
    omega
  · intro c hc
    obtain ⟨front, rfl⟩ := List.getLast?_eq_some_iff.1 hc
    by_contra hblank
    have hright : ∀ d ∈ [c], blank d := by simpa using hblank
    have hcut : trimBy blank front = front ++ [c] :=
      (trimBy_append_of_blank_right hright front).symm.trans h
    have hlength := (trimBy_isInfix blank front).length_le
    rw [hcut, List.length_append, List.length_singleton] at hlength
    omega

theorem bareEndsBy_trimBy (text : List α) : BareEndsBy blank (trimBy blank text) :=
  bareEndsBy_of_trimBy_eq (trimBy_trimBy text)

theorem trimBy_eq_of_bareEndsBy {text : List α} (h : BareEndsBy blank text) :
    trimBy blank text = text := by
  obtain ⟨left, right, hleft, hright, htext⟩ := exists_eq_append_trimBy blank text
  have hnoLeft : left = [] := by
    cases left with
    | nil => rfl
    | cons c left =>
        have hbare := h.1 c (by rw [htext]; rfl)
        rw [hleft c List.mem_cons_self] at hbare
        cases hbare
  have hnoRight : right = [] := by
    rcases List.eq_nil_or_concat right with hnil | ⟨front, c, rfl⟩
    · exact hnil
    · have hbare := h.2 c (by rw [htext]; simp)
      rw [hright c (by simp)] at hbare
      cases hbare
  rw [hnoLeft, hnoRight, List.nil_append, List.append_nil] at htext
  exact htext.symm

end TrimBy

/-! ## Blank characters -/

/-- Nothing but blanks. -/
def AllBlank (text : List Char) : Prop :=
  ∀ c ∈ text, isBlank c

instance (text : List Char) : Decidable (AllBlank text) :=
  List.decidableBAll (fun c => isBlank c) text

theorem not_mem_of_allBlank {text : List Char} (h : AllBlank text) {c : Char}
    (hc : isBlank c = false) : c ∉ text := by
  intro hmem
  rw [h c hmem] at hc
  cases hc

theorem toNat_le_of_isBlank {c : Char} (h : isBlank c = true) : c.toNat ≤ 0x3000 := by
  simp only [isBlank, isWhiteSpace, Bool.or_eq_true, Bool.and_eq_true, decide_eq_true_eq,
    beq_iff_eq] at h
  omega

theorem exists_eq_append_trim (text : List Char) :
    ∃ left right, AllBlank left ∧ AllBlank right ∧ text = left ++ trim text ++ right :=
  exists_eq_append_trimBy isBlank text

theorem trim_append_of_blank_left {left : List Char} (h : AllBlank left) (text : List Char) :
    trim (left ++ text) = trim text :=
  trimBy_append_of_blank_left h text

theorem trim_append_of_blank_right {right : List Char} (h : AllBlank right)
    (text : List Char) : trim (text ++ right) = trim text :=
  trimBy_append_of_blank_right h text

theorem trim_blank_append_blank {left right : List Char} (hleft : AllBlank left)
    (hright : AllBlank right) (text : List Char) :
    trim (left ++ text ++ right) = trim text :=
  trimBy_blank_append_blank hleft hright text

theorem trim_of_allBlank {text : List Char} (h : AllBlank text) : trim text = [] := by
  have hnone := trim_append_of_blank_right h []
  rwa [List.nil_append] at hnone

theorem mem_of_mem_trim {text : List Char} {c : Char} (h : c ∈ trim text) : c ∈ text :=
  (trimBy_isInfix isBlank text).subset h

/-- Neither end of a text is blank. -/
def BareEnds (text : List Char) : Prop :=
  (∀ c ∈ text.head?, isBlank c = false) ∧ ∀ c ∈ text.getLast?, isBlank c = false

instance (text : List Char) : Decidable (BareEnds text) :=
  inferInstanceAs (Decidable (BareEndsBy isBlank text))

theorem trimmed_trim (text : List Char) : Trimmed (trim text) :=
  trimBy_trimBy text

theorem bareEnds_of_trimmed {text : List Char} (h : Trimmed text) : BareEnds text :=
  bareEndsBy_of_trimBy_eq h

theorem trimmed_of_bareEnds {text : List Char} (h : BareEnds text) : Trimmed text :=
  trimBy_eq_of_bareEndsBy h

end KidsListing.Text
