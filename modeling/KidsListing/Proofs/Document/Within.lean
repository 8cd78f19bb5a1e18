import KidsListing.Document.Path
import KidsListing.Proofs.Document.Reader
import Mathlib.Logic.Relation

/-!
# What stands within a document

Steps and paths lead to what stands within a document or nowhere.  A document is
written when all integers within it can be; so is every document that was read, and
the plain text of a written document can always be taken.
-/

namespace KidsListing.Document

/-- A document stands somewhere in another, or is the other. -/
def Within : Document → Document → Prop :=
  Relation.ReflTransGen fun x d => x ∈ d.children.map Prod.snd

theorem within_iff {x d : Document} :
    Within x d ↔ d = x ∨ ∃ c ∈ d.children.map Prod.snd, Within x c := by
  rw [Within, Relation.ReflTransGen.cases_tail_iff]
  simp only [and_comm]

theorem within_list_iff {x : Document} {elements : List Document} :
    Within x (.list elements) ↔ .list elements = x ∨ ∃ c ∈ elements, Within x c := by
  rw [within_iff, map_snd_children_list]

theorem within_object_iff {x : Document} {entries : List (String × Document)} :
    Within x (.object entries) ↔
      .object entries = x ∨ ∃ entry ∈ entries, Within x entry.2 := by
  rw [within_iff, map_snd_children_object]
  simp only [List.mem_map, exists_exists_and_eq_and]

/-- A step that leads somewhere leads to what stands within the document. -/
theorem within_of_step {d : Document} {s : Step} (h : d.step s ≠ .null) :
    Within (d.step s) d := by
  cases d with
  | object entries =>
      cases s with
      | key name =>
          cases hlookup : lookup name entries with
          | none => exact absurd (by rw [step, hlookup]; rfl) h
          | some x =>
              rw [step, hlookup]
              exact within_object_iff.2 (.inr ⟨_, mem_of_lookup hlookup, .refl⟩)
      | index position => exact absurd rfl h
  | list elements =>
      cases s with
      | key name => exact absurd rfl h
      | index position =>
          cases helement : element? elements position with
          | none => exact absurd (by rw [step, helement]; rfl) h
          | some x =>
              rw [step, helement]
              exact within_list_iff.2 (.inr ⟨x, mem_of_element? helement, .refl⟩)
  | _ => exact absurd rfl h

theorem within_of_walk {d : Document} {path : List Step} (h : d.walk path ≠ .null) :
    Within (d.walk path) d := by
  induction path generalizing d with
  | nil => exact .refl
  | cons s rest ih =>
      rw [walk_cons] at h ⊢
      have hstep : d.step s ≠ .null := by
        intro hnull
        rw [hnull, walk_null] at h
        exact h rfl
      exact (ih h).trans (within_of_step hstep)

/-! ## Written documents -/

/-- All integers within a document can be written. -/
def Written (d : Document) : Prop :=
  ∀ value, Within (.int value) d → Writable value

/-- Where nothing stands below, only the integer itself counts. -/
theorem written_of_children_eq_nil {d : Document} (hchildren : d.children = [])
    (h : ∀ value, d = .int value → Writable value) : d.Written := by
  intro value hvalue
  rcases within_iff.1 hvalue with heq | ⟨c, hc, -⟩
  · exact h value heq
  · rw [hchildren] at hc
    cases hc

theorem Written.of_within {x d : Document} (h : d.Written) (hwithin : Within x d) : x.Written :=
  fun value hvalue => h value (hvalue.trans hwithin)

theorem written_int {value : Int} : (int value).Written ↔ Writable value := by
  constructor
  · intro h
    exact h value .refl
  · intro h
    apply written_of_children_eq_nil rfl
    rintro _ ⟨⟩
    exact h

theorem written_text (value : String) : (text value).Written :=
  written_of_children_eq_nil rfl nofun

theorem written_bool (value : Bool) : (bool value).Written :=
  written_of_children_eq_nil rfl nofun

theorem written_list {elements : List Document} :
    (list elements).Written ↔ ∀ x ∈ elements, x.Written := by
  constructor
  · intro h x hx
    exact h.of_within (within_list_iff.2 (.inr ⟨x, hx, .refl⟩))
  · intro h value hvalue
    rcases within_list_iff.1 hvalue with heq | ⟨x, hx, hwithin⟩
    · cases heq
    · exact h x hx value hwithin

theorem written_object {entries : List (String × Document)} :
    (object entries).Written ↔ ∀ entry ∈ entries, entry.2.Written := by
  constructor
  · intro h entry hentry
    exact h.of_within (within_object_iff.2 (.inr ⟨entry, hentry, .refl⟩))
  · intro h value hvalue
    rcases within_object_iff.1 hvalue with heq | ⟨entry, hentry, hwithin⟩
    · cases heq
    · exact h entry hentry value hwithin

theorem readable_written : Readable Written where
  null := written_of_children_eq_nil rfl nofun
  bool := written_bool
  int _ h := written_int.2 h
  float _ := written_of_children_eq_nil rfl nofun
  text := written_text
  list _ h := written_list.2 h
  noEntries := written_object.2 nofun
  insert key value entries hvalue h := by
    apply written_object.2
    intro entry hentry
    rcases eq_or_mem_of_mem_insert hentry with rfl | hmem
    · exact hvalue
    · exact written_object.1 h entry hmem

/-- The reader refuses the numerals of all other integers. -/
theorem written_of_read {text : List Char} {d : Document} (h : read text = .ok d) : d.Written :=
  readable_written.of_read h

/-! ## Texts of written documents -/

namespace Written

variable {d : Document}

theorem walk (h : d.Written) (path : List Step) : (d.walk path).Written := by
  by_cases hnull : d.walk path = .null
  · rw [hnull]
    exact readable_written.null
  · exact h.of_within (within_of_walk hnull)

theorem step (h : d.Written) (s : Step) : (d.step s).Written :=
  h.walk [s]

theorem plainText (h : d.Written) : ∃ text, d.plainText = .ok text := by
  cases d with
  | int value => exact ⟨toString value, by rw [Document.plainText, if_pos (written_int.1 h)]⟩
  | _ => exact ⟨_, rfl⟩

theorem label (h : d.Written) : ∃ text, d.label = .ok text := by
  have hruns := h.step "runs"
  unfold Document.label
  split
  · rename_i run rest heq
    rw [heq] at hruns
    have hrun : run.Written := written_list.1 hruns run List.mem_cons_self
    exact (hrun.step "text").plainText
  · exact (h.step "simpleText").plainText

theorem linkedChannel (h : d.Written) : ∃ channel, d.linkedChannel = .ok channel := by
  obtain ⟨id, hid⟩ :=
    (h.walk ["runs", .index 0, "navigationEndpoint", "browseEndpoint", "browseId"]).plainText
  exact ⟨_, by rw [Document.linkedChannel, hid]; rfl⟩

end Written

end KidsListing.Document
