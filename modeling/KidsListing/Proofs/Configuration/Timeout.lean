import KidsListing.Configuration.Settings
import KidsListing.Proofs.Configuration.Seconds
import KidsListing.Proofs.Text.Blank

/-!
# The timeout of a request

A length of time is only asked to be greater than zero.  This keeps out everything that is
no number, negative or too small for the format, but neither infinity nor a numeral that is
too large for the format.
-/

namespace KidsListing

namespace Seconds

/-- A number in the range of the format. -/
def DenotesUsable (text : List Char) : Prop :=
  ∃ q, Denotes text false q ∧ Binary64.underflow < q ∧ q < Binary64.overflow

/-- Infinity, or a number above the range of the format. -/
def DenotesBoundless (text : List Char) : Prop :=
  DenotesInfinity text false ∨ ∃ q, Denotes text false q ∧ Binary64.overflow ≤ q

/-- A length of time that can be waited for, which is the number that the text denotes, or the
default when there is none in the range of the format. -/
structure UsableFor (text : List Char) (default value : Binary64) : Prop where
  isPositive : value.isPositive
  isFinite : value.isFinite
  isNear : ∀ q, Denotes text false q → Binary64.underflow < q → q < Binary64.overflow →
    value.IsNear q
  eq_default : ¬ DenotesUsable text → value = default

theorem number?_trim (text : List Char) : number? (Text.trim text) = number? text := by
  have htrim : Text.trim (Text.trim text) = Text.trim text := Text.trimmed_trim text
  rw [number?_eq, number?_eq, htrim]

/-- Nothing else is read as a number greater than zero. -/
theorem denotes_of_isPositive {text : List Char} {value : Binary64}
    (h : number? text = some value) (hpositive : value.isPositive) :
    DenotesUsable text ∨ DenotesBoundless text := by
  rcases denotes_of_number? h with
    ⟨negative, q, hdenotes, hrepresents⟩ | ⟨negative, hinfinity, rfl⟩ | rfl
  · obtain ⟨rfl, hlow⟩ := hrepresents.isPositive.1 hpositive
    rcases lt_or_ge q Binary64.overflow with hhigh | hhigh
    · exact .inl ⟨q, hdenotes, hlow, hhigh⟩
    · exact .inr (.inr ⟨q, hdenotes, hhigh⟩)
  · cases negative with
    | false => exact .inr (.inl hinfinity)
    | true => cases hpositive
  · cases hpositive

theorem DenotesBoundless.number? {text : List Char} (h : DenotesBoundless text) :
    ∃ value, Seconds.number? text = some value ∧ value.isPositive ∧ value.isFinite = false := by
  rcases h with hinfinity | ⟨q, hdenotes, hhigh⟩
  · exact ⟨_, number?_of_denotesInfinity hinfinity, rfl, rfl⟩
  · obtain ⟨value, hvalue, hrepresents⟩ := number?_of_denotes hdenotes
    refine ⟨value, hvalue, ?_, ?_⟩
    · exact hrepresents.isPositive.2 ⟨rfl, Binary64.underflow_lt_overflow.trans_le hhigh⟩
    · exact Bool.eq_false_iff.2 (mt hrepresents.isFinite.1 (not_lt.2 hhigh))

theorem DenotesUsable.number? {text : List Char} (h : DenotesUsable text) (default : Binary64) :
    ∃ value, Seconds.number? text = some value ∧ UsableFor text default value := by
  obtain ⟨q, hdenotes, hlow, hhigh⟩ := h
  obtain ⟨value, hnumber, hrepresents⟩ := number?_of_denotes hdenotes
  refine ⟨value, hnumber, hrepresents.isPositive.2 ⟨rfl, hlow⟩, hrepresents.isFinite.2 hhigh,
    ?_, fun hnot => absurd ⟨q, hdenotes, hlow, hhigh⟩ hnot⟩
  -- However else the text can be taken for a numeral, it is read as this value.
  intro other hother _ hless
  obtain ⟨same, hsame, hrepresents⟩ := number?_of_denotes hother
  obtain rfl := Option.some.inj (hnumber.symm.trans hsame)
  exact hrepresents.isNear hless

theorem usableFor_default {text : List Char} (h : ¬ DenotesUsable text) {default : Binary64}
    (hpositive : default.isPositive) (hfinite : default.isFinite) :
    UsableFor text default default where
  isPositive := hpositive
  isFinite := hfinite
  isNear q hdenotes hlow hhigh := absurd ⟨q, hdenotes, hlow, hhigh⟩ h
  eq_default _ := rfl

end Seconds

namespace Settings

open Seconds (DenotesUsable DenotesBoundless UsableFor)

/-- The text of a variable, which is empty when it is absent. -/
def textOf (environment : Environment) (name : Variable) : List Char :=
  ((environment name).getD "").toList

theorem number?_raw (environment : Environment) (name : Variable) :
    Seconds.number? (raw environment name).toList = Seconds.number? (textOf environment name) := by
  rw [raw, Text.trimmed, String.toList_ofList, Seconds.number?_trim]
  rfl

section SecondsOr

variable {environment : Environment} {name : Variable}

theorem secondsOr_of_isPositive {value : Binary64}
    (h : Seconds.number? (textOf environment name) = some value) (hpositive : value.isPositive)
    (default : Seconds) : secondsOr environment name default = .floating value := by
  rw [secondsOr, number?_raw, h]
  exact if_pos hpositive

/-- What is no length of time is passed over. -/
theorem secondsOr_eq_default (husable : ¬ DenotesUsable (textOf environment name))
    (hboundless : ¬ DenotesBoundless (textOf environment name)) (default : Seconds) :
    secondsOr environment name default = default := by
  rw [secondsOr, number?_raw]
  split
  · rename_i value hvalue
    apply if_neg
    intro hpositive
    rcases Seconds.denotes_of_isPositive hvalue hpositive with h | h
    · exact husable h
    · exact hboundless h
  · rfl

/-- Infinity is the one length of time that is taken and cannot be waited for. -/
theorem secondsOr_usable_iff {default : Binary64} (hpositive : default.isPositive)
    (hfinite : default.isFinite) :
    (∃ value, secondsOr environment name (.floating default) = .floating value ∧
      UsableFor (textOf environment name) default value) ↔
    ¬ DenotesBoundless (textOf environment name) := by
  constructor
  · rintro ⟨value, hvalue, husable⟩ hboundless
    obtain ⟨boundless, hnumber, hlong, hinfinite⟩ := hboundless.number?
    rw [secondsOr_of_isPositive hnumber hlong] at hvalue
    obtain rfl := Seconds.floating.inj hvalue
    exact Bool.eq_false_iff.1 hinfinite husable.isFinite
  · intro hboundless
    by_cases husable : DenotesUsable (textOf environment name)
    · obtain ⟨value, hnumber, hvalue⟩ := husable.number? default
      exact ⟨value, secondsOr_of_isPositive hnumber hvalue.isPositive _, hvalue⟩
    · exact ⟨default, secondsOr_eq_default husable hboundless _,
        Seconds.usableFor_default husable hpositive hfinite⟩

end SecondsOr

/-- The timeout is greater than zero and finite, the number that the variable denotes or else
the default, exactly as long as the variable denotes neither infinity nor a number above the
range of the format. -/
theorem requestTimeout_load_usable_iff (environment : Environment) :
    (∃ value, (load environment).requestTimeout = .floating value ∧
      UsableFor (textOf environment .requestTimeout) (Binary64.ofDecimal false 15 0) value) ↔
    ¬ DenotesBoundless (textOf environment .requestTimeout) := by
  have hload : (load environment).requestTimeout =
      secondsOr environment .requestTimeout (.floating (Binary64.ofDecimal false 15 0)) := by
    rw [load]
  rw [hload]
  exact secondsOr_usable_iff (by decide) (by decide)

theorem requestTimeout_load_infinity :
    (load fun
      | .requestTimeout => some "inf"
      | _ => none).requestTimeout = .floating (.infinite false) := by
  decide

end Settings

end KidsListing
