import KidsListing.Document.PlainText
import KidsListing.Proofs.Document.Within
import KidsListing.Proofs.Video.ViewCount

/-!
# Moderate documents

A document is moderate when all of its integers can be written and none of its
texts has so many digits that a view count read from it might be refused.  Paths
stay within moderate documents, and all their texts can be taken.
-/

namespace KidsListing.Document

open KidsListing.Text (isDigit)

/-- The most digits of a text whose view count is sure to be read. -/
def maxTextDigits : Nat := 999990

mutual

def Moderate : Document → Prop
  | .int value => Writable value
  | .text value => value.toList.countP isDigit ≤ maxTextDigits
  | .list elements => ModerateElements elements
  | .object entries => ModerateEntries entries
  | _ => True

def ModerateElements : List Document → Prop
  | [] => True
  | x :: rest => Moderate x ∧ ModerateElements rest

def ModerateEntries : List (String × Document) → Prop
  | [] => True
  | (_, x) :: rest => Moderate x ∧ ModerateEntries rest

end

theorem moderate_int {value : Int} : (int value).Moderate ↔ Writable value := by
  rw [Moderate]

theorem moderate_text {value : String} :
    (text value).Moderate ↔ value.toList.countP isDigit ≤ maxTextDigits := by
  rw [Moderate]

theorem moderate_list {elements : List Document} :
    (list elements).Moderate ↔ ModerateElements elements := by
  rw [Moderate]

theorem moderate_object {entries : List (String × Document)} :
    (object entries).Moderate ↔ ModerateEntries entries := by
  rw [Moderate]

/-! ## Paths -/

theorem ModerateElements.of_mem {elements : List Document} (h : ModerateElements elements)
    {x : Document} (hx : x ∈ elements) : x.Moderate := by
  induction elements with
  | nil => cases hx
  | cons y rest ih =>
      rcases List.mem_cons.1 hx with rfl | hx
      · exact h.1
      · exact ih h.2 hx

theorem ModerateEntries.of_mem {entries : List (String × Document)}
    (h : ModerateEntries entries) {entry : String × Document} (hentry : entry ∈ entries) :
    entry.2.Moderate := by
  induction entries with
  | nil => cases hentry
  | cons first rest ih =>
      rcases List.mem_cons.1 hentry with rfl | hrest
      · exact h.1
      · exact ih h.2 hrest

theorem Moderate.step {d : Document} (h : d.Moderate) (s : Step) : (d.step s).Moderate := by
  unfold Document.step
  split
  · rename_i entries key
    cases hlookup : lookup key entries with
    | none => trivial
    | some x => exact (moderate_object.1 h).of_mem (mem_of_lookup hlookup)
  · rename_i elements position
    cases helement : element? elements position with
    | none => trivial
    | some x => exact (moderate_list.1 h).of_mem (mem_of_element? helement)
  · trivial

theorem Moderate.walk {d : Document} (h : d.Moderate) (path : List Step) :
    (d.walk path).Moderate := by
  induction path generalizing d with
  | nil => exact h
  | cons s rest ih =>
      rw [walk_cons]
      exact ih (h.step s)

theorem Moderate.written {d : Document} (h : d.Moderate) : d.Written := by
  induction d using childInduction with
  | step d ih =>
      cases d with
      | int value => exact written_int.2 (moderate_int.1 h)
      | list elements =>
          apply written_list.2
          intro x hx
          obtain ⟨i, hi, rfl⟩ := List.getElem_of_mem hx
          apply ih (.element i, elements[i]) (List.mem_mapIdx.2 ⟨i, hi, rfl⟩)
          exact (moderate_list.1 h).of_mem hx
      | object entries =>
          apply written_object.2
          intro entry hentry
          exact ih (.entry entry.1, entry.2) (List.mem_map_of_mem hentry)
            ((moderate_object.1 h).of_mem hentry)
      | _ => exact written_of_children_eq_nil rfl nofun

/-! ## Texts -/

/-- A text is taken, and a view count read from it is not refused. -/
def Taken (taken : Except Fault String) : Prop :=
  ∃ text, taken = .ok text ∧ ∃ count, ViewCount.parse text.toList = .ok count

theorem Moderate.plainText {d : Document} (h : d.Moderate) : Taken d.plainText := by
  cases d with
  | text value =>
      refine ⟨value, rfl, ViewCount.parse_ok ?_⟩
      exact Nat.le_trans (Nat.add_le_add_right (moderate_text.1 h) 9) (by decide)
  | int value =>
      refine ⟨toString value, by rw [Document.plainText, if_pos (moderate_int.1 h)], ?_⟩
      exact ⟨_, ViewCount.parse_of_spellsNumber (Text.all_spellsNumber_toString value)⟩
  | float value =>
      refine ⟨value.text, rfl, ?_⟩
      exact ⟨_, ViewCount.parse_of_spellsNumber value.all_spellsNumber_text⟩
  | _ => exact ⟨"", rfl, _, rfl⟩

theorem Moderate.label {d : Document} (h : d.Moderate) : Taken d.label := by
  have hruns := h.step "runs"
  unfold Document.label
  split
  · rename_i run rest heq
    rw [heq] at hruns
    have hrun : run.Moderate := (moderate_list.1 hruns).1
    exact (hrun.step "text").plainText
  · exact (h.step "simpleText").plainText

end KidsListing.Document
