import KidsListing.Text.Digit
import KidsListing.Text.Utf8

/-!
# Query strings

The parameters of a query string are `name=value` fields with ampersands
between them.  In a field a plus sign stands for a space and a percent sign with
two hexadecimal digits for an octet; the octets so written are UTF-8, with
U+FFFD for what is ill-formed.  Any other octet is a character by itself.  Of
parameters with one name the last counts.
-/

namespace KidsListing.Query

open KidsListing.Text (hexDigit? splitOn)

/-- The characters that a query string is taken for when it arrives: one for each
octet of its UTF-8 form. -/
def arriving (query : List Char) : List Char :=
  (query.flatMap String.utf8EncodeChar).map fun octet => Char.ofNat octet.toNat

/-- The octets of a text, in which a percent sign without two hexadecimal digits
stands for itself. -/
def percentDecode : List Char → List UInt8
  | [] => []
  | '%' :: a :: b :: rest =>
      match hexDigit? a, hexDigit? b with
      | some high, some low => UInt8.ofNat (16 * high + low) :: percentDecode rest
      | _, _ => 0x25 :: percentDecode (a :: b :: rest)
  | c :: rest => String.utf8EncodeChar c ++ percentDecode rest

def plusToSpace (c : Char) : Char :=
  if c = '+' then ' ' else c

def decodeText (text : List Char) : String :=
  String.ofList (Text.Utf8.decodeReplacing (percentDecode (text.map plusToSpace)))

/-- A field without an equals sign is a name with an empty value. -/
def parameter (field : List Char) : String × String :=
  (decodeText (field.takeWhile (· != '=')), decodeText ((field.dropWhile (· != '=')).drop 1))

def parameters (query : List Char) : List (String × String) :=
  ((splitOn '&' (arriving query)).filter fun field => field ≠ []).map parameter

/-- The value of the last parameter with a name. -/
def value? (query : List Char) (name : String) : Option String :=
  ((parameters query).reverse.find? fun p => p.1 = name).map Prod.snd

/-- The characters that stay as they are in an address. -/
def isAddressCharacter (c : Char) : Bool :=
  c.isAlphanum || "_.-~:/%#?=@[]!$&'()*+,;".contains c

def upperHexDigit (n : Nat) : Char :=
  if n < 10 then Char.ofNat ('0'.toNat + n) else Char.ofNat ('A'.toNat + n - 10)

def percentEncodeOctet (octet : UInt8) : List Char :=
  ['%', upperHexDigit (octet.toNat / 16), upperHexDigit (octet.toNat % 16)]

/-- The address with every other character written by its octets. -/
def percentEncode (address : List Char) : List Char :=
  address.flatMap fun c =>
    if isAddressCharacter c then [c] else (String.utf8EncodeChar c).flatMap percentEncodeOctet

end KidsListing.Query
