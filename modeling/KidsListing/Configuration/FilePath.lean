import KidsListing.Text.Digit

/-!
# File paths

A path is the number of slashes that it starts with and the names between its
slashes.  Empty names and single dots are dropped, exactly two leading slashes
stay two, and any other number of them is one.
-/

namespace KidsListing

structure FilePath where
  leading : Nat
  names : List (List Char)
  deriving DecidableEq, Repr

namespace FilePath

def ofText (text : List Char) : FilePath where
  leading :=
    match (text.takeWhile (· == '/')).length with
    | 0 => 0
    | 2 => 2
    | _ => 1
  names := (Text.splitOn '/' text).filter fun name => name ≠ [] ∧ name ≠ ['.']

def joinNames : List (List Char) → List Char
  | [] => []
  | [name] => name
  | name :: rest => name ++ '/' :: joinNames rest

/-- A path with neither a leading slash nor a name is the current directory. -/
def text (path : FilePath) : List Char :=
  if path.leading = 0 ∧ path.names = [] then ['.']
  else List.replicate path.leading '/' ++ joinNames path.names

end FilePath

end KidsListing
