import KidsListing.Number.Binary64

/-!
# Documents

A document is a tree of scalars, lists and objects.  The entries of an object
keep their order, and integers and floating-point numbers are told apart.  A
tree is `WellKeyed` when no object in it has two entries of one key; every
document that was read from text is.
-/

namespace KidsListing

inductive Document where
  | null
  | bool (value : Bool)
  | int (value : Int)
  | float (value : Binary64)
  | text (value : String)
  | list (elements : List Document)
  | object (entries : List (String × Document))
  deriving Inhabited

namespace Document

section Entries

variable {κ ν : Type} [DecidableEq κ]

/-- The value of the first entry with a key. -/
def lookup (key : κ) : List (κ × ν) → Option ν
  | [] => none
  | (k, value) :: rest => if k = key then some value else lookup key rest

/-- The entries with a value put under a key: in the place of the entry that has
the key, or else at the end. -/
def insert (key : κ) (value : ν) : List (κ × ν) → List (κ × ν)
  | [] => [(key, value)]
  | (k, old) :: rest =>
      if k = key then (k, value) :: rest else (k, old) :: insert key value rest

theorem lookup_insert_self (key : κ) (value : ν) (entries : List (κ × ν)) :
    lookup key (insert key value entries) = some value := by
  induction entries with
  | nil => simp [insert, lookup]
  | cons entry rest ih =>
      by_cases h : entry.1 = key <;> simp [insert, lookup, h, ih]

theorem lookup_insert_of_ne {key other : κ} (h : other ≠ key) (value : ν)
    (entries : List (κ × ν)) :
    lookup other (insert key value entries) = lookup other entries := by
  induction entries with
  | nil => simp [insert, lookup, h.symm]
  | cons entry rest ih =>
      by_cases hkey : entry.1 = key
      · simp [insert, lookup, hkey, h.symm]
      · simp [insert, lookup, hkey, ih]

theorem lookup_eq_none_iff {key : κ} {entries : List (κ × ν)} :
    lookup key entries = none ↔ key ∉ entries.map Prod.fst := by
  induction entries with
  | nil => simp [lookup]
  | cons entry rest ih =>
      by_cases h : entry.1 = key
      · simp [lookup, h]
      · simp [lookup, h, ih, Ne.symm h]

theorem mem_of_lookup {key : κ} {entries : List (κ × ν)} {value : ν}
    (h : lookup key entries = some value) : (key, value) ∈ entries := by
  induction entries with
  | nil => cases h
  | cons entry rest ih =>
      obtain ⟨k, old⟩ := entry
      rw [lookup] at h
      split at h
      · rename_i hkey
        rw [← hkey, ← Option.some.inj h]
        exact List.mem_cons_self
      · exact List.mem_cons_of_mem _ (ih h)

theorem insert_ne_nil (key : κ) (value : ν) (entries : List (κ × ν)) :
    insert key value entries ≠ [] := by
  cases entries with
  | nil => simp [insert]
  | cons entry rest => by_cases h : entry.1 = key <;> simp [insert, h]

end Entries

def isObject : Document → Bool
  | .object _ => true
  | _ => false

/-- What going through a document gives one by one: the elements of a list, the
keys of an object or the characters of a text. -/
def parts? : Document → Option (List Document)
  | .list elements => some elements
  | .object entries => some (entries.map fun entry => .text entry.1)
  | .text value => some (value.toList.map fun c => .text c.toString)
  | _ => none

/-- The word for the kind of a document. -/
def kindWord : Document → String
  | .null => "NoneType"
  | .bool _ => "bool"
  | .int _ => "int"
  | .float _ => "float"
  | .text _ => "str"
  | .list _ => "list"
  | .object _ => "dict"

mutual

def WellKeyed : Document → Prop
  | .list elements => WellKeyedElements elements
  | .object entries => (entries.map Prod.fst).Nodup ∧ WellKeyedEntries entries
  | _ => True

def WellKeyedElements : List Document → Prop
  | [] => True
  | x :: rest => WellKeyed x ∧ WellKeyedElements rest

def WellKeyedEntries : List (String × Document) → Prop
  | [] => True
  | (_, x) :: rest => WellKeyed x ∧ WellKeyedEntries rest

end

end Document

end KidsListing
