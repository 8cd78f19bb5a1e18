import KidsListing.Proofs.Number.Positional
import KidsListing.Proofs.Text.Separated
import KidsListing.Video.Duration

/-!
# Clock notation

A duration is read from exactly the texts of two or three numerals with single colons
between them, and it is the number of seconds that they denote: sixty for a minute and
3600 for an hour, with no check of a range.
-/

namespace KidsListing.Duration

open KidsListing.Text (IsNumeral isDigit natural? ofDigits splitOn)

/-- The seconds that a text in clock notation denotes. -/
inductive Denotes : List Char → Nat → Prop
  | minutes {m s : List Char} (hm : IsNumeral m) (hs : IsNumeral s) :
      Denotes (m ++ ':' :: s) (Nat.ofDigitChars 10 m 0 * 60 + Nat.ofDigitChars 10 s 0)
  | hours {h m s : List Char} (hh : IsNumeral h) (hm : IsNumeral m) (hs : IsNumeral s) :
      Denotes (h ++ ':' :: (m ++ ':' :: s))
        (Nat.ofDigitChars 10 h 0 * 3600 + Nat.ofDigitChars 10 m 0 * 60 +
          Nat.ofDigitChars 10 s 0)

/-- The numerals of a text in clock notation. -/
structure Writes (groups : List (List Char)) (text : List Char) : Prop where
  joined : text = [':'].intercalate groups
  twoOrThree : groups.length = 2 ∨ groups.length = 3
  numerals : ∀ group ∈ groups, IsNumeral group

theorem seconds_pair (m s : Nat) : seconds [m, s] = m * 60 + s := by
  simp only [seconds, List.foldl_cons, List.foldl_nil]
  omega

theorem seconds_triple (h m s : Nat) : seconds [h, m, s] = h * 3600 + m * 60 + s := by
  simp only [seconds, List.foldl_cons, List.foldl_nil]
  omega

/-- The steps of sixty from numeral to numeral come to the weights of the places. -/
theorem denotes_iff {text : List Char} {n : Nat} :
    Denotes text n ↔ ∃ groups, Writes groups text ∧ seconds (groups.map ofDigits) = n := by
  constructor
  · intro h
    cases h with
    | @minutes m s hm hs =>
        refine ⟨[m, s], ⟨by simp [List.intercalate], .inl rfl, by simp [hm, hs]⟩, ?_⟩
        simp [seconds_pair, Text.ofDigits_eq_ofDigitChars]
    | @hours h m s hh hm hs =>
        refine ⟨[h, m, s], ⟨by simp [List.intercalate], .inr rfl, by simp [hh, hm, hs]⟩, ?_⟩
        simp [seconds_triple, Text.ofDigits_eq_ofDigitChars]
  · rintro ⟨groups, hwrites, rfl⟩
    rw [hwrites.joined]
    have hnumerals := hwrites.numerals
    rcases hwrites.twoOrThree with htwo | hthree
    · obtain ⟨m, s, rfl⟩ := List.length_eq_two.1 htwo
      have hdenotes := Denotes.minutes (hnumerals m (by simp)) (hnumerals s (by simp))
      simpa [List.intercalate, seconds_pair, Text.ofDigits_eq_ofDigitChars] using hdenotes
    · obtain ⟨h, m, s, rfl⟩ := List.length_eq_three.1 hthree
      have hdenotes := Denotes.hours (hnumerals h (by simp)) (hnumerals m (by simp))
        (hnumerals s (by simp))
      simpa [List.intercalate, seconds_triple, Text.ofDigits_eq_ofDigitChars] using hdenotes

theorem mapM_natural?_eq_some_iff {groups : List (List Char)} {places : List Nat} :
    groups.mapM natural? = some places ↔
      (∀ group ∈ groups, IsNumeral group) ∧ groups.map ofDigits = places := by
  induction groups generalizing places with
  | nil =>
      rw [List.mapM_nil, List.map_nil]
      constructor
      · intro h
        exact ⟨nofun, Option.some.inj h⟩
      · intro h
        exact congrArg some h.2
  | cons group groups ih =>
      rw [List.mapM_cons, List.forall_mem_cons, List.map_cons]
      simp only [Option.bind_eq_bind, Option.bind_eq_some_iff, Text.natural?_eq_some_iff, ih,
        Option.pure_def, Option.some.injEq]
      constructor
      · rintro ⟨_, ⟨hgroup, rfl⟩, _, ⟨hgroups, rfl⟩, rfl⟩
        exact ⟨⟨hgroup, hgroups⟩, rfl⟩
      · rintro ⟨⟨hgroup, hgroups⟩, rfl⟩
        exact ⟨_, ⟨hgroup, rfl⟩, _, ⟨hgroups, rfl⟩, rfl⟩

theorem colon_not_mem_of_isNumeral {group : List Char} (h : IsNumeral group) : ':' ∉ group := by
  intro hmem
  have hdigit := List.all_eq_true.1 h.2.1 ':' hmem
  exact absurd hdigit (by decide)

/-- The numerals of a text are what stands between its colons. -/
theorem Writes.splitOn_eq {groups : List (List Char)} {text : List Char}
    (h : Writes groups text) : splitOn ':' text = groups := by
  have hsome : groups ≠ [] := by
    intro hnil
    have hlength := h.twoOrThree
    rw [hnil] at hlength
    exact absurd hlength (by decide)
  rw [h.joined]
  exact Text.splitOn_intercalate_of_not_mem
    (fun group hgroup => colon_not_mem_of_isNumeral (h.numerals group hgroup)) hsome

theorem parse?_eq_some_iff {text : List Char} {n : Nat} :
    parse? text = some n ↔ Denotes text n := by
  rw [denotes_iff, parse?]
  constructor
  · intro h
    split at h
    · rename_i hlength
      obtain ⟨places, hplaces, hseconds⟩ := Option.map_eq_some_iff.1 h
      obtain ⟨hnumerals, hvalues⟩ := mapM_natural?_eq_some_iff.1 hplaces
      refine ⟨splitOn ':' text, ⟨?_, hlength, hnumerals⟩, by rw [hvalues, hseconds]⟩
      exact (Text.intercalate_splitOn_groups ':' text).symm
    · cases h
  · rintro ⟨groups, hwrites, hseconds⟩
    rw [hwrites.splitOn_eq, if_pos hwrites.twoOrThree,
      mapM_natural?_eq_some_iff.2 ⟨hwrites.numerals, rfl⟩, Option.map_some, hseconds]

end KidsListing.Duration
