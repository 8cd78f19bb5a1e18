import KidsListing.Configuration.Settings
import KidsListing.Proofs.Text.Blank
import Mathlib.Logic.Relation

/-!
# Blanks in the environment

Every setting is read from the trimmed text of its variable, and a variable that is absent
counts as blank.  Setting a variable to blanks, clearing one that holds nothing else and
putting blanks around a value make no difference to the settings, to the allowed origins or
to the level of the log, unless a file makes one of them: a value that it gives is masked by
blanks, and its texts may refer to the variable.
The texts among the settings are never blank, nor are their ends.
-/

namespace KidsListing

open KidsListing.Text (AllBlank BareEnds trim)
open Relation (EqvGen)

/-- A change of the value of a variable in which only blanks come or go. -/
inductive Respaced : Option String → Option String → Prop
  | set {blanks : String} (hblanks : AllBlank blanks.toList) : Respaced none (some blanks)
  | clear {blanks : String} (hblanks : AllBlank blanks.toList) : Respaced (some blanks) none
  | pad {left right : String} (hleft : AllBlank left.toList) (hright : AllBlank right.toList)
      (text : String) : Respaced (some text) (some (left ++ text ++ right))

/-- One variable is respaced and all others stay as they are. -/
def Environment.Respaces (environment other : Environment) : Prop :=
  ∃ name, Respaced (environment name) (other name) ∧
    ∀ unchanged ≠ name, other unchanged = environment unchanged

/-- A file takes no part in a change of the environment: it gives nothing but blanks, if
anything, to a variable that is set or cleared, and what it gives to those that are set
neither before nor after is the same. -/
structure VariableFile.Indifferent (file : VariableFile) (environment other : Environment) :
    Prop where
  whenSet : ∀ name, environment name = none → other name ≠ none →
    ∀ text ∈ file environment name, AllBlank text.toList
  whenCleared : ∀ name, environment name ≠ none → other name = none →
    ∀ text ∈ file other name, AllBlank text.toList
  steady : ∀ name, environment name = none → other name = none →
    file other name = file environment name

/-- One variable is respaced, beside a file that takes no part in it. -/
def Environment.RespacesBeside (file : VariableFile) (environment other : Environment) : Prop :=
  environment.Respaces other ∧ file.Indifferent environment other

/-! ## What the program sees -/

/-- A map that takes related values to connected ones takes connected values to such. -/
theorem eqvGen_lift {α β : Type} {r : α → α → Prop} {s : β → β → Prop} {f : α → β}
    (hstep : ∀ a b, r a b → EqvGen s (f a) (f b)) {a b : α} (h : EqvGen r a b) :
    EqvGen s (f a) (f b) := by
  have hequivalence : IsEquiv α (InvImage (EqvGen s) f) :=
    ((EqvGen.is_equivalence s).comap f).isEquiv
  exact EqvGen.eqvGen_le hstep a b h

/-- A variable that holds nothing but blanks, if it is set at all, can as well be cleared. -/
theorem Respaced.eqvGen_none {value : Option String}
    (h : ∀ text ∈ value, AllBlank text.toList) : EqvGen Respaced value none := by
  cases value with
  | none => exact .refl none
  | some text => exact .rel _ _ (.clear (h text rfl))

namespace Environment

variable {file : VariableFile} {environment other : Environment} {name : Variable}

theorem filledFrom_of_some {value : String} (h : environment name = some value) :
    environment.filledFrom file name = some value := by
  rw [filledFrom, h, Option.some_or]

theorem filledFrom_of_none (h : environment name = none) :
    environment.filledFrom file name = file environment name := by
  rw [filledFrom, h, Option.none_or]

theorem filledFrom_missing (environment : Environment) :
    environment.filledFrom .missing = environment := by
  funext name
  exact Option.or_none

/-- Environments of which one variable alone is respaced, once or several times. -/
theorem eqvGen_of_value (h : EqvGen Respaced (environment name) (other name))
    (hunchanged : ∀ unchanged ≠ name, other unchanged = environment unchanged) :
    EqvGen Respaces environment other := by
  have hstep (value changed : Option String) (hspaced : Respaced value changed) :
      EqvGen Respaces (Function.update environment name value)
        (Function.update environment name changed) := by
    refine .rel _ _ ⟨name, ?_, ?_⟩
    · rwa [Function.update_self, Function.update_self]
    · intro unchanged hne
      rw [Function.update_of_ne hne, Function.update_of_ne hne]
  have hother : Function.update environment name (other name) = other :=
    (Function.eq_update_iff.2 ⟨rfl, hunchanged⟩).symm
  have hupdated := eqvGen_lift hstep h
  rwa [Function.update_eq_self, hother] at hupdated

section Beside

variable (hfile : file.Indifferent environment other)
include hfile

theorem eqvGen_filledFrom_value (hspaced : Respaced (environment name) (other name)) :
    EqvGen Respaced (environment.filledFrom file name) (other.filledFrom file name) := by
  generalize hbefore : environment name = before at hspaced
  generalize hafter : other name = after at hspaced
  cases hspaced with
  | set hblanks =>
      have hset : other name ≠ none := hafter ▸ Option.some_ne_none _
      rw [filledFrom_of_none hbefore, filledFrom_of_some hafter]
      exact .trans _ none _ (Respaced.eqvGen_none (hfile.whenSet name hbefore hset))
        (.rel _ _ (.set hblanks))
  | clear hblanks =>
      have hset : environment name ≠ none := hbefore ▸ Option.some_ne_none _
      rw [filledFrom_of_some hbefore, filledFrom_of_none hafter]
      exact .trans _ none _ (.rel _ _ (.clear hblanks))
        (.symm _ _ (Respaced.eqvGen_none (hfile.whenCleared name hset hafter)))
  | pad hleft hright text =>
      rw [filledFrom_of_some hbefore, filledFrom_of_some hafter]
      exact .rel _ _ (.pad hleft hright text)

theorem filledFrom_of_unchanged (hsame : other name = environment name) :
    other.filledFrom file name = environment.filledFrom file name := by
  cases hvalue : environment name with
  | none =>
      rw [hvalue] at hsame
      rw [filledFrom_of_none hvalue, filledFrom_of_none hsame, hfile.steady name hvalue hsame]
  | some value =>
      rw [hvalue] at hsame
      rw [filledFrom_of_some hvalue, filledFrom_of_some hsame]

end Beside

theorem eqvGen_filledFrom_of_respacesBeside (h : environment.RespacesBeside file other) :
    EqvGen Respaces (environment.filledFrom file) (other.filledFrom file) := by
  obtain ⟨⟨name, hspaced, hunchanged⟩, hfile⟩ := h
  exact eqvGen_of_value (eqvGen_filledFrom_value hfile hspaced) fun unchanged hne =>
    filledFrom_of_unchanged hfile (hunchanged unchanged hne)

/-- Beside a file that takes no part in it, what the program sees is respaced too. -/
theorem eqvGen_filledFrom (h : EqvGen (RespacesBeside file) environment other) :
    EqvGen Respaces (environment.filledFrom file) (other.filledFrom file) :=
  eqvGen_lift (fun (before after : Environment) (hstep : before.RespacesBeside file after) =>
    eqvGen_filledFrom_of_respacesBeside hstep) h

end Environment

namespace Settings

/-! ## What is read -/

theorem trim_getD_of_respaced {value other : Option String} (h : Respaced value other) :
    trim (other.getD "").toList = trim (value.getD "").toList := by
  cases h with
  | set hblanks => exact Text.trim_of_allBlank hblanks
  | clear hblanks => exact (Text.trim_of_allBlank hblanks).symm
  | pad hleft hright text =>
      rw [Option.getD_some, Option.getD_some, String.toList_append, String.toList_append,
        Text.trim_blank_append_blank hleft hright]

/-- A variable reads the same however it is spaced. -/
theorem raw_of_respaces {environment other : Environment} (h : environment.Respaces other)
    (name : Variable) : raw other name = raw environment name := by
  obtain ⟨changed, hchanged, hunchanged⟩ := h
  rw [raw, raw, Text.trimmed, Text.trimmed]
  by_cases hname : name = changed
  · rw [hname, trim_getD_of_respaced hchanged]
  · rw [hunchanged name hname]

/-- The settings are made of what the variables read. -/
theorem load_of_respaces {environment other : Environment} (h : environment.Respaces other) :
    load environment = load other := by
  simp only [load, textOr, secondsOr, pathOf, raw_of_respaces h]

/-- Environments that differ only in blanks load the same settings. -/
theorem load_of_eqvGen {environment other : Environment}
    (h : EqvGen Environment.Respaces environment other) : load other = load environment := by
  have hload := eqvGen_lift (fun before after hstep =>
    EqvGen.rel (load before) (load after) (load_of_respaces hstep)) h
  exact (eq_equivalence.eqvGen_iff.1 hload).symm

/-! ## Texts among the settings -/

/-- Neither blank nor with a blank at one of its ends. -/
def Presentable (text : String) : Prop :=
  text ≠ "" ∧ BareEnds text.toList

instance (text : String) : Decidable (Presentable text) :=
  inferInstanceAs (Decidable (text ≠ "" ∧ BareEnds text.toList))

theorem presentable_textOr (environment : Environment) (name : Variable) {default : String}
    (h : Presentable default) : Presentable (textOr environment name default) := by
  rw [textOr]
  split
  · exact h
  · rename_i hsome
    refine ⟨hsome, ?_⟩
    rw [raw, Text.trimmed, String.toList_ofList]
    exact Text.bareEnds_of_trimmed (Text.trimmed_trim _)

/-- Two programs come to the same settings, allowed origins and level of the log. -/
structure Agree (settings other : Settings) : Prop where
  load_eq : other = settings
  origins_eq : other.origins = settings.origins
  level_eq : other.level = settings.level

theorem Agree.of_eq {settings other : Settings} (h : other = settings) : Agree settings other :=
  ⟨h, congrArg origins h, congrArg level h⟩

def verbose : Environment
  | .logLevel => some "debug"
  | _ => none

/-- The level among odd blanks, and a variable that holds nothing else. -/
def verboseSpaced : Environment
  | .logLevel => some ("\u2003" ++ "debug" ++ "\u0085")
  | .allowedOrigins => some "\x1c"
  | _ => none

/-- A file that gives an address, with blanks around it, a level, and blanks. -/
def addressFile : VariableFile
  | _, .searchUrl => some " http://search "
  | _, .logLevel => some "error"
  | _, .allowedOrigins => some "\t"
  | _, _ => none

theorem eqvGen_respacesBeside_verboseSpaced :
    EqvGen (Environment.RespacesBeside addressFile) verbose verboseSpaced := by
  let halfway : Environment := Function.update verbose .allowedOrigins (some "\x1c")
  have hset : verbose.Respaces halfway := by
    have hblank : Respaced none (some "\x1c") := .set (by decide)
    exact ⟨.allowedOrigins, hblank, fun unchanged hne => Function.update_of_ne hne _ _⟩
  have hpad : halfway.Respaces verboseSpaced := by
    refine ⟨.logLevel, .pad (by decide) (by decide) "debug", ?_⟩
    intro unchanged hne
    cases unchanged with
    | logLevel => exact absurd rfl hne
    | _ => rfl
  have hsteady (environment other : Environment) (name : Variable) :
      addressFile other name = addressFile environment name := by
    cases name <;> rfl
  have hfirst : addressFile.Indifferent verbose halfway := by
    refine ⟨?_, ?_, fun name _ _ => hsteady _ _ name⟩
    all_goals rintro (_ | _ | _ | _ | _ | _ | _ | _) <;> decide
  have hsecond : addressFile.Indifferent halfway verboseSpaced := by
    refine ⟨?_, ?_, fun name _ _ => hsteady _ _ name⟩
    all_goals rintro (_ | _ | _ | _ | _ | _ | _ | _) <;> decide
  exact .trans _ _ _ (.rel _ _ ⟨hset, hfirst⟩) (.rel _ _ ⟨hpad, hsecond⟩)

example : (loadBeside addressFile verboseSpaced).level = .debug := by
  decide

/-- Where the level is not set that of the file counts, but not behind blanks. -/
example : (loadBeside addressFile fun _ => none).level = .error ∧
    (loadBeside addressFile fun _ => some " ").level = .info := by
  decide

end Settings

end KidsListing
