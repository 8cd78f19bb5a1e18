import KidsListing.Document.Basic

/-!
# Equality of documents

Equality of documents is decided by walking both trees at once.
-/

namespace KidsListing.Document

mutual

def decEq : (x y : Document) → Decidable (x = y)
  | .null, y => match y with
      | .null => isTrue rfl
      | .bool _ | .int _ | .float _ | .text _ | .list _ | .object _ => isFalse nofun
  | .bool a, y => match y with
      | .bool b => if h : a = b then isTrue (h ▸ rfl) else isFalse (h <| by cases ·; rfl)
      | .null | .int _ | .float _ | .text _ | .list _ | .object _ => isFalse nofun
  | .int a, y => match y with
      | .int b => if h : a = b then isTrue (h ▸ rfl) else isFalse (h <| by cases ·; rfl)
      | .null | .bool _ | .float _ | .text _ | .list _ | .object _ => isFalse nofun
  | .float a, y => match y with
      | .float b => if h : a = b then isTrue (h ▸ rfl) else isFalse (h <| by cases ·; rfl)
      | .null | .bool _ | .int _ | .text _ | .list _ | .object _ => isFalse nofun
  | .text a, y => match y with
      | .text b => if h : a = b then isTrue (h ▸ rfl) else isFalse (h <| by cases ·; rfl)
      | .null | .bool _ | .int _ | .float _ | .list _ | .object _ => isFalse nofun
  | .list a, y => match y with
      | .list b => match decEqElements a b with
          | isTrue h => isTrue (h ▸ rfl)
          | isFalse h => isFalse (h <| by cases ·; rfl)
      | .null | .bool _ | .int _ | .float _ | .text _ | .object _ => isFalse nofun
  | .object a, y => match y with
      | .object b => match decEqEntries a b with
          | isTrue h => isTrue (h ▸ rfl)
          | isFalse h => isFalse (h <| by cases ·; rfl)
      | .null | .bool _ | .int _ | .float _ | .text _ | .list _ => isFalse nofun

def decEqElements : (xs ys : List Document) → Decidable (xs = ys)
  | [], [] => isTrue rfl
  | [], _ :: _ => isFalse nofun
  | _ :: _, [] => isFalse nofun
  | x :: xs, y :: ys => match decEq x y, decEqElements xs ys with
      | isTrue h, isTrue hs => isTrue (h ▸ hs ▸ rfl)
      | isFalse h, _ => isFalse (h <| by cases ·; rfl)
      | _, isFalse h => isFalse (h <| by cases ·; rfl)

def decEqEntries : (xs ys : List (String × Document)) → Decidable (xs = ys)
  | [], [] => isTrue rfl
  | [], _ :: _ => isFalse nofun
  | _ :: _, [] => isFalse nofun
  | (k, x) :: xs, (l, y) :: ys =>
      if hk : k = l then
        match decEq x y, decEqEntries xs ys with
        | isTrue h, isTrue hs => isTrue (hk ▸ h ▸ hs ▸ rfl)
        | isFalse h, _ => isFalse (h <| by cases ·; rfl)
        | _, isFalse h => isFalse (h <| by cases ·; rfl)
      else isFalse (hk <| by cases ·; rfl)

end

instance : DecidableEq Document := decEq

end KidsListing.Document
