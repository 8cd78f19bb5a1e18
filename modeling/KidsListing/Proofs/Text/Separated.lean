import KidsListing.Proofs.Text.Blank
import KidsListing.Text.Digit

/-!
# Texts with separators

The groups of a text are those of `List.splitOn`: joined by the separator they
give the text again.  Blanks at the ends of the text belong to its first and
last group, so trimming the text first leaves the trimmed groups as they are.
-/

namespace KidsListing.Text

theorem splitOn_eq (separator : Char) (text : List Char) :
    splitOn separator text = text.splitOn separator := by
  induction text with
  | nil => rfl
  | cons c rest ih =>
      rw [splitOn, List.splitOn_cons_eq_if_modifyHead, ← ih]
      by_cases h : c = separator
      · rw [if_pos h, if_pos (beq_iff_eq.2 h)]
      · rw [if_neg h, if_neg (mt beq_iff_eq.1 h)]
        cases hsplit : splitOn separator rest with
        | nil => exact absurd hsplit (splitOn_ne_nil separator rest)
        | cons group groups => rfl

theorem intercalate_splitOn_groups (separator : Char) (text : List Char) :
    [separator].intercalate (splitOn separator text) = text := by
  rw [splitOn_eq, List.intercalate_splitOn]

theorem splitOn_intercalate_of_not_mem {separator : Char} {groups : List (List Char)}
    (h : ∀ group ∈ groups, separator ∉ group) (hsome : groups ≠ []) :
    splitOn separator ([separator].intercalate groups) = groups := by
  rw [splitOn_eq, List.splitOn_intercalate separator h hsome]

theorem splitOn_of_not_mem {separator : Char} {text : List Char} (h : separator ∉ text) :
    splitOn separator text = [text] := by
  rw [splitOn_eq, List.splitOn_eq_singleton h]

/-! ## Blanks at the ends -/

section Ends

variable {separator : Char}

theorem splitOn_cons_of_ne {c : Char} (h : c ≠ separator) {rest first : List Char}
    {groups : List (List Char)} (hsplit : splitOn separator rest = first :: groups) :
    splitOn separator (c :: rest) = (c :: first) :: groups := by
  rw [splitOn, if_neg h, hsplit]

/-- What stands before a text without a separator goes to its first group. -/
theorem splitOn_append_left {left : List Char} (h : separator ∉ left) (text : List Char) :
    ∃ first groups, splitOn separator text = first :: groups ∧
      splitOn separator (left ++ text) = (left ++ first) :: groups := by
  obtain ⟨first, groups, hsplit⟩ :=
    List.exists_cons_of_ne_nil (splitOn_ne_nil separator text)
  refine ⟨first, groups, hsplit, ?_⟩
  induction left with
  | nil => exact hsplit
  | cons c left ih =>
      have hc : c ≠ separator := fun hc => h (hc ▸ List.mem_cons_self)
      have hleft : separator ∉ left := fun hmem => h (List.mem_cons_of_mem c hmem)
      exact splitOn_cons_of_ne hc (ih hleft)

/-- What stands after a text without a separator goes to its last group. -/
theorem splitOn_append_right {right : List Char} (h : separator ∉ right) (text : List Char) :
    ∃ groups last, splitOn separator text = groups ++ [last] ∧
      splitOn separator (text ++ right) = groups ++ [last ++ right] := by
  induction text with
  | nil => exact ⟨[], [], rfl, splitOn_of_not_mem h⟩
  | cons c rest ih =>
      obtain ⟨groups, last, hrest, hlonger⟩ := ih
      by_cases hc : c = separator
      · refine ⟨[] :: groups, last, ?_, ?_⟩
        · rw [splitOn, if_pos hc, hrest]
          rfl
        · rw [List.cons_append, splitOn, if_pos hc, hlonger]
          rfl
      · cases groups with
        | nil =>
            exact ⟨[], c :: last, splitOn_cons_of_ne hc hrest, splitOn_cons_of_ne hc hlonger⟩
        | cons first groups =>
            exact ⟨(c :: first) :: groups, last, splitOn_cons_of_ne hc hrest,
              splitOn_cons_of_ne hc hlonger⟩

/-- Trimming a text first makes no difference to its trimmed groups. -/
theorem map_trim_splitOn_trim (h : isBlank separator = false) (text : List Char) :
    (splitOn separator (trim text)).map trim = (splitOn separator text).map trim := by
  obtain ⟨left, right, hleft, hright, htext⟩ := exists_eq_append_trim text
  obtain ⟨first, groups, hcore, hlonger⟩ :=
    splitOn_append_left (not_mem_of_allBlank hleft h) (trim text)
  obtain ⟨before, last, hbefore, hwhole⟩ :=
    splitOn_append_right (not_mem_of_allBlank hright h) (left ++ trim text)
  calc
    (splitOn separator (trim text)).map trim =
        (splitOn separator (left ++ trim text)).map trim := by
      rw [hcore, hlonger, List.map_cons, List.map_cons, trim_append_of_blank_left hleft]
    _ = (splitOn separator (left ++ trim text ++ right)).map trim := by
      rw [hbefore, hwhole, List.map_append, List.map_append, List.map_singleton,
        List.map_singleton, trim_append_of_blank_right hright]
    _ = (splitOn separator text).map trim := by
      rw [← htext]

end Ends

end KidsListing.Text
