import KidsListing.Text.CodePoint
import KidsListing.Text.Printable

/-!
# Quoted text

A text between quotes.  Single quotes are used unless the text has single
quotes and no double ones; the quote in use and the backslash are escaped, and
so is every unprintable code point, by its shortest form.
-/

namespace KidsListing.Text.Quoted

def quoteFor (text : RawText) : Char :=
  if .character '\'' ∈ text ∧ .character '"' ∉ text then '"' else '\''

/-- Lower-case hexadecimal digits, padded with zeros to a width. -/
def hexadecimal (width n : Nat) : List Char :=
  let digits := Nat.toDigits 16 n
  List.replicate (width - digits.length) '0' ++ digits

def escapeCharacter (quote c : Char) : List Char :=
  if c = quote ∨ c = '\\' then ['\\', c]
  else if c = '\n' then ['\\', 'n']
  else if c = '\r' then ['\\', 'r']
  else if c = '\t' then ['\\', 't']
  else if isPrintable c then [c]
  else if c.toNat < 0x100 then ['\\', 'x'] ++ hexadecimal 2 c.toNat
  else if c.toNat < 0x10000 then ['\\', 'u'] ++ hexadecimal 4 c.toNat
  else ['\\', 'U'] ++ hexadecimal 8 c.toNat

def escape (quote : Char) : CodePoint → List Char
  | .character c => escapeCharacter quote c
  | .surrogate offset => ['\\', 'u'] ++ hexadecimal 4 (0xD800 + offset)

def quoted (text : RawText) : List Char :=
  let quote := quoteFor text
  [quote] ++ text.flatMap (escape quote) ++ [quote]

end KidsListing.Text.Quoted
