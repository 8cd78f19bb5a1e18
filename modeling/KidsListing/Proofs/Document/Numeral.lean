import KidsListing.Document.Reader
import Mathlib.Data.List.TakeDrop

/-!
# Numerals that are too long

Every reader leaves a suffix of its input.  A reader that stops at a numeral
that is too long has come to more than `Text.maxDigits` digits in a row, so that
a text without so many is read or malformed.
-/

namespace KidsListing.Document

open KidsListing.Text (isDigit maxDigits)

/-- Somewhere there are more digits in a row than a numeral may have. -/
def HasLongRun (input : List Char) : Prop :=
  ∃ run, run <:+: input ∧ run.all isDigit ∧ maxDigits < run.length

theorem HasLongRun.of_suffix {input rest : List Char} (h : HasLongRun rest)
    (hsuffix : rest <:+ input) : HasLongRun input := by
  obtain ⟨run, hinfix, hdigits, hlength⟩ := h
  exact ⟨run, hinfix.trans hsuffix.isInfix, hdigits, hlength⟩

namespace Reader

/-- What a reader leaves is a suffix of its input, and a numeral that it stops at
is in its input. -/
structure Faithful {α : Type} (input : List Char) (parsed : Parsed α) : Prop where
  suffix : ∀ x rest, parsed = .ok (x, rest) → rest <:+ input
  stopped : parsed = .error .numeralTooLong → HasLongRun input

section Faithful

variable {α : Type} {input : List Char}

theorem faithful_malformed : Faithful (α := α) input (.error .malformed) :=
  ⟨nofun, nofun⟩

theorem faithful_ok {x : α} {rest : List Char} (h : rest <:+ input) :
    Faithful input (.ok (x, rest)) := by
  refine ⟨?_, nofun⟩
  rintro _ _ ⟨⟩
  exact h

theorem Faithful.of_suffix {parsed : Parsed α} {rest : List Char} (h : Faithful rest parsed)
    (hsuffix : rest <:+ input) : Faithful input parsed :=
  ⟨fun x left hparsed => (h.suffix x left hparsed).trans hsuffix,
    fun hstopped => (h.stopped hstopped).of_suffix hsuffix⟩

/-- An error is passed on with the input that it is in. -/
theorem Faithful.error {β : Type} {parsed : Parsed α} {e : ReadError}
    (h : Faithful input parsed) (herror : parsed = .error e) :
    Faithful (α := β) input (.error e) := by
  refine ⟨nofun, ?_⟩
  rintro ⟨⟩
  exact h.stopped herror

end Faithful

/-! ## Spaces, words and numbers -/

theorem skip_suffix (input : List Char) : skip input <:+ input :=
  List.dropWhile_suffix _

theorem suffix_of_skip_eq_cons {input rest : List Char} {c : Char}
    (h : skip input = c :: rest) : rest <:+ input :=
  (List.suffix_cons c rest).trans (h ▸ skip_suffix input)

theorem suffix_of_expect? {word input rest : List Char} (h : expect? word input = some rest) :
    rest <:+ input := by
  induction word generalizing input with
  | nil =>
      obtain rfl := Option.some.inj h
      exact List.suffix_refl _
  | cons c word ih =>
      cases input with
      | nil => cases h
      | cons d input =>
          rw [expect?] at h
          split at h
          · exact (ih h).trans (List.suffix_cons d input)
          · cases h

theorem digits_eq (input : List Char) :
    digits input = (input.takeWhile isDigit, input.dropWhile isDigit) :=
  List.span_eq_takeWhile_dropWhile _ _

theorem digits_suffix (input : List Char) : (digits input).2 <:+ input := by
  rw [digits_eq]
  exact List.dropWhile_suffix _

theorem fraction_suffix (input : List Char) : (fraction input).2 <:+ input := by
  unfold fraction
  split
  · rename_i rest
    simp only
    split
    · exact List.suffix_refl _
    · exact (digits_suffix rest).trans (List.suffix_cons '.' rest)
  · exact List.suffix_refl _

theorem exponent_suffix (input : List Char) : (exponent input).2 <:+ input := by
  unfold exponent
  split
  · exact List.suffix_refl _
  · rename_i e rest
    split
    · have hsigned : ∀ (unsigned : List Char) (power : Int), unsigned <:+ rest →
          (if (digits unsigned).1.isEmpty then (none, e :: rest)
            else (some power, (digits unsigned).2)).2 <:+ e :: rest := by
        intro unsigned power hsign
        split
        · exact List.suffix_refl _
        · exact ((digits_suffix _).trans hsign).trans (List.suffix_cons e rest)
      simp only
      split
      · exact hsigned _ _ (List.suffix_cons _ _)
      · exact hsigned _ _ (List.suffix_cons _ _)
      · exact hsigned _ _ (List.suffix_refl _)
    · exact List.suffix_refl _

/-- The digits before the point are a run at the front of the input. -/
theorem whole_append (input : List Char) :
    (whole input).1 ++ (whole input).2 = input ∧ (whole input).1.all isDigit := by
  unfold whole
  split
  · exact ⟨rfl, rfl⟩
  · rw [digits_eq]
    exact ⟨List.takeWhile_append_dropWhile, List.all_takeWhile⟩

theorem faithful_number (negative : Bool) (input : List Char) :
    Faithful input (number negative input) := by
  obtain ⟨happend, hdigits⟩ := whole_append input
  have hrest : (exponent (fraction (whole input).2).2).2 <:+ input :=
    ((exponent_suffix _).trans (fraction_suffix _)).trans ⟨_, happend⟩
  simp only [number]
  split
  · exact faithful_malformed
  · split
    · split
      · rename_i hlong
        have hfront : (whole input).1 <+: input := ⟨_, happend⟩
        exact ⟨nofun, fun _ => ⟨(whole input).1, hfront.isInfix, hdigits, hlong⟩⟩
      · exact faithful_ok hrest
    · exact faithful_ok hrest

theorem faithful_word (input : List Char) (spelling : String) (d : RawDocument) :
    Faithful input (scalar.word input spelling d) := by
  rw [scalar.word]
  split
  · rename_i rest h
    exact faithful_ok (suffix_of_expect? h)
  · exact faithful_malformed

theorem faithful_scalar (input : List Char) : Faithful input (scalar input) := by
  unfold scalar
  split
  iterate 6 exact faithful_word _ _ _
  · exact (faithful_number _ _).of_suffix (List.suffix_cons _ _)
  · exact faithful_number _ _

theorem faithful_characters (read : List CodePoint) (high : Option Nat) (input : List Char) :
    Faithful input (characters read high input) := by
  fun_induction characters read high input
  case case1 | case3 | case9 | case11 => exact faithful_malformed
  case case2 => exact faithful_ok (List.suffix_cons _ _)
  case case4 ih | case5 ih | case6 ih | case7 ih | case8 ih =>
    exact ih.of_suffix (List.suffix_append ['\\', 'u', _, _, _, _] _)
  case case10 ih => exact ih.of_suffix (List.suffix_append ['\\', _] _)
  case case12 ih => exact ih.of_suffix (List.suffix_cons _ _)

/-! ## Values -/

section Step

variable {fuel : Nat}

theorem faithful_value (helements : ∀ input, Faithful input (elements fuel [] input))
    (hentries : ∀ input, Faithful input (entries fuel [] input)) (input : List Char) :
    Faithful input (value (fuel + 1) input) := by
  rw [value]
  split
  · rename_i rest hskip
    have hrest := suffix_of_skip_eq_cons hskip
    have hcharacters := (faithful_characters [] none rest).of_suffix hrest
    split
    · rename_i herror
      exact hcharacters.error herror
    · rename_i s left hok
      exact faithful_ok (hcharacters.suffix s left hok)
  · rename_i rest hskip
    have hrest := suffix_of_skip_eq_cons hskip
    split
    · rename_i left hclosed
      exact faithful_ok ((suffix_of_skip_eq_cons hclosed).trans hrest)
    · exact (helements rest).of_suffix hrest
  · rename_i rest hskip
    have hrest := suffix_of_skip_eq_cons hskip
    split
    · rename_i left hclosed
      exact faithful_ok ((suffix_of_skip_eq_cons hclosed).trans hrest)
    · exact (hentries rest).of_suffix hrest
  · exact (faithful_scalar _).of_suffix (skip_suffix input)

theorem faithful_elements (hvalue : ∀ input, Faithful input (value fuel input))
    (hrest : ∀ read input, Faithful input (elements fuel read input))
    (read : List RawDocument) (input : List Char) :
    Faithful input (elements (fuel + 1) read input) := by
  rw [elements]
  split
  · rename_i herror
    exact (hvalue input).error herror
  · rename_i x rest hx
    have hleft := (hvalue input).suffix x rest hx
    split
    · rename_i left hskip
      exact (hrest _ left).of_suffix ((suffix_of_skip_eq_cons hskip).trans hleft)
    · rename_i left hskip
      exact faithful_ok ((suffix_of_skip_eq_cons hskip).trans hleft)
    · exact faithful_malformed

theorem faithful_entries (hvalue : ∀ input, Faithful input (value fuel input))
    (hrest : ∀ read input, Faithful input (entries fuel read input))
    (read : List (RawText × RawDocument)) (input : List Char) :
    Faithful input (entries (fuel + 1) read input) := by
  rw [entries]
  split
  · rename_i rest hskip
    have hkey := (faithful_characters [] none rest).of_suffix (suffix_of_skip_eq_cons hskip)
    split
    · rename_i herror
      exact hkey.error herror
    · rename_i key rest hok
      split
      · rename_i rest hcolon
        have hbefore : rest <:+ input :=
          (suffix_of_skip_eq_cons hcolon).trans (hkey.suffix _ _ hok)
        have hafter := (hvalue rest).of_suffix hbefore
        split
        · rename_i herror
          exact hafter.error herror
        · rename_i x rest hx
          have hleft := hafter.suffix x rest hx
          simp only
          split
          · rename_i left hskip
            exact (hrest _ left).of_suffix ((suffix_of_skip_eq_cons hskip).trans hleft)
          · rename_i left hskip
            exact faithful_ok ((suffix_of_skip_eq_cons hskip).trans hleft)
          · exact faithful_malformed
      · exact faithful_malformed
  · exact faithful_malformed

end Step

theorem faithful_of_fuel (fuel : Nat) :
    (∀ input, Faithful input (value fuel input)) ∧
      (∀ read input, Faithful input (elements fuel read input)) ∧
      ∀ read input, Faithful input (entries fuel read input) := by
  induction fuel with
  | zero => exact ⟨fun _ => faithful_malformed, fun _ _ => faithful_malformed,
      fun _ _ => faithful_malformed⟩
  | succ fuel ih =>
      obtain ⟨hvalue, helements, hentries⟩ := ih
      exact ⟨faithful_value (helements []) (hentries []), faithful_elements hvalue helements,
        faithful_entries hvalue hentries⟩

end Reader

/-- Only a text with too many digits in a row has a numeral that is too long. -/
theorem hasLongRun_of_readRaw {text : List Char} (h : readRaw text = .error .numeralTooLong) :
    HasLongRun text := by
  have hvalue := (Reader.faithful_of_fuel (text.length + 1)).1 text
  rw [readRaw] at h
  split at h
  · rename_i herror
    obtain rfl := Except.error.inj h
    exact hvalue.stopped herror
  · split at h
    · cases h
    · cases h

end KidsListing.Document
