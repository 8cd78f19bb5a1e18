import KidsListing.Document.Raw
import KidsListing.Number.Shortest
import KidsListing.Text.Quoted

/-!
# Spelling of documents

Every document has a one-line spelling: capitalised words for null and the
truth values, decimal numbers, quoted texts, and brackets around elements and
entries that a comma and a space separate.
-/

namespace KidsListing.RawDocument

open KidsListing.Text.Quoted (quoted)

def joined (separator : List Char) : List (List Char) → List Char
  | [] => []
  | [part] => part
  | part :: rest => part ++ separator ++ joined separator rest

mutual

def spelling : RawDocument → List Char
  | .null => "None".toList
  | .bool value => (if value then "True" else "False").toList
  | .int value => (toString value).toList
  | .float value => value.text.toList
  | .text value => quoted value
  | .list elements => ['['] ++ joined [',', ' '] (spellings elements) ++ [']']
  | .object entries => ['\x7b'] ++ joined [',', ' '] (entrySpellings entries) ++ ['\x7d']

def spellings : List RawDocument → List (List Char)
  | [] => []
  | x :: rest => spelling x :: spellings rest

def entrySpellings : List (RawText × RawDocument) → List (List Char)
  | [] => []
  | (key, x) :: rest => (quoted key ++ [':', ' '] ++ spelling x) :: entrySpellings rest

end

/-- A text stands for itself, and any other document for its spelling. -/
def asText : RawDocument → RawText
  | .text value => value
  | document => (spelling document).map .character

end KidsListing.RawDocument
