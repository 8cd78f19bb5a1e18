import KidsListing.Document.Basic

/-!
# Paths into documents

A path is a list of steps, each an object key or a list index.  A negative
index counts from the end of the list.  A step that leads nowhere gives null,
and every step from null gives null again.
-/

namespace KidsListing.Document

inductive Step where
  | key (name : String)
  | index (position : Int)
  deriving DecidableEq, Repr

instance : Coe String Step := ⟨.key⟩

/-- The element at a position, counted from the end when it is negative. -/
def element? (elements : List Document) (position : Int) : Option Document :=
  if 0 ≤ position then elements[position.toNat]?
  else if -position ≤ elements.length then elements[(elements.length + position).toNat]?
  else none

def step : Document → Step → Document
  | .object entries, .key name => (lookup name entries).getD .null
  | .list elements, .index position => (element? elements position).getD .null
  | _, _ => .null

/-- The value at the end of a path, or null. -/
def walk (document : Document) (path : List Step) : Document :=
  path.foldl step document

theorem mem_of_element? {elements : List Document} {position : Int} {x : Document}
    (h : element? elements position = some x) : x ∈ elements := by
  unfold element? at h
  split at h
  · exact List.mem_of_getElem? h
  · split at h
    · exact List.mem_of_getElem? h
    · cases h

theorem walk_nil (document : Document) : document.walk [] = document := rfl

theorem walk_cons (document : Document) (s : Step) (path : List Step) :
    document.walk (s :: path) = (document.step s).walk path := rfl

theorem walk_append (document : Document) (p q : List Step) :
    document.walk (p ++ q) = (document.walk p).walk q := by
  simp [walk]

theorem step_null (s : Step) : step .null s = .null := by
  cases s <;> rfl

theorem walk_null (path : List Step) : walk .null path = .null := by
  induction path with
  | nil => rfl
  | cons s rest ih => rw [walk_cons, step_null, ih]

end KidsListing.Document
