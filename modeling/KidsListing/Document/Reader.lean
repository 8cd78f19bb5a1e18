import KidsListing.Document.Raw
import KidsListing.Text.Digit

/-!
# Reading documents

Documents are read from text by the grammar of RFC 8259 without extensions,
except that the three words `NaN`, `Infinity` and `-Infinity` are numbers too.
A number with neither a fraction nor an exponent is an integer, and one of more
than `Text.maxDigits` digits stops the reader where it stands.  Two escapes of
surrogates that make a pair are one character; any other surrogate stands alone.
Of entries with one key the last value wins, in the place of the first.
-/

namespace KidsListing.Document

open KidsListing.Text (isDigit hexDigit? ofDigits maxDigits)

inductive ReadError where
  | malformed
  | numeralTooLong
  deriving DecidableEq, Repr

namespace Reader

abbrev Parsed (α : Type) := Except ReadError (α × List Char)

def isSpace (c : Char) : Bool :=
  c == ' ' || c == '\t' || c == '\n' || c == '\r'

def skip (input : List Char) : List Char :=
  input.dropWhile isSpace

/-- The rest after a fixed word. -/
def expect? : List Char → List Char → Option (List Char)
  | [], input => some input
  | c :: word, d :: input => if c = d then expect? word input else none
  | _ :: _, [] => none

def hexUnit? (a b c d : Char) : Option Nat := do
  let a ← hexDigit? a
  let b ← hexDigit? b
  let c ← hexDigit? c
  let d ← hexDigit? d
  return ((a * 16 + b) * 16 + c) * 16 + d

def isHighSurrogate (unit : Nat) : Bool := 0xD800 ≤ unit && unit < 0xDC00

def isLowSurrogate (unit : Nat) : Bool := 0xDC00 ≤ unit && unit < 0xE000

def ofSurrogates (high low : Nat) : Char :=
  Char.ofNat (0x10000 + (high - 0xD800) * 0x400 + (low - 0xDC00))

def simpleEscape? : Char → Option Char
  | '"' => some '"'
  | '\\' => some '\\'
  | '/' => some '/'
  | 'b' => some '\x08'
  | 'f' => some '\x0c'
  | 'n' => some '\n'
  | 'r' => some '\r'
  | 't' => some '\t'
  | _ => none

/-- The text up to the closing quote.  `high` is a high surrogate that
has just been read and may be completed by the next escape. -/
def characters (read : List CodePoint) (high : Option Nat) : List Char → Parsed RawText
  | [] => .error .malformed
  | '"' :: rest => .ok ((settle read high).reverse, rest)
  | '\\' :: 'u' :: a :: b :: c :: d :: rest =>
      match hexUnit? a b c d with
      | none => .error .malformed
      | some unit =>
          match high with
          | some first =>
              if isLowSurrogate unit then
                characters (.character (ofSurrogates first unit) :: read) none rest
              else if isHighSurrogate unit then
                characters (.ofUnit first :: read) (some unit) rest
              else characters (.ofUnit unit :: .ofUnit first :: read) none rest
          | none =>
              if isHighSurrogate unit then characters read (some unit) rest
              else characters (.ofUnit unit :: read) none rest
  | '\\' :: c :: rest =>
      match simpleEscape? c with
      | none => .error .malformed
      | some e => characters (.character e :: settle read high) none rest
  | c :: rest =>
      if c.toNat < 0x20 ∨ c = '\\' then .error .malformed
      else characters (.character c :: settle read high) none rest
where
  settle (read : List CodePoint) (high : Option Nat) : List CodePoint :=
    match high with
    | some unit => .ofUnit unit :: read
    | none => read

/-- The digits at the front and the rest. -/
def digits (input : List Char) : List Char × List Char :=
  input.span isDigit

/-- A fraction or exponent is part of the number only when it has a digit. -/
def fraction (input : List Char) : List Char × List Char :=
  match input with
  | '.' :: rest =>
      let part := digits rest
      if part.1.isEmpty then ([], input) else part
  | _ => ([], input)

def exponent (input : List Char) : Option Int × List Char :=
  match input with
  | [] => (none, input)
  | e :: rest =>
      if e = 'e' ∨ e = 'E' then
        let signed :=
          match rest with
          | '-' :: r => (true, r)
          | '+' :: r => (false, r)
          | r => (false, r)
        let part := digits signed.2
        if part.1.isEmpty then (none, input)
        else
          let magnitude : Int := ofDigits part.1
          (some (if signed.1 then -magnitude else magnitude), part.2)
      else (none, input)

/-- The digits before the point: a zero, or digits that start with another. -/
def whole (input : List Char) : List Char × List Char :=
  match input with
  | '0' :: rest => (['0'], rest)
  | _ => digits input

def number (negative : Bool) (input : List Char) : Parsed RawDocument :=
  let units := whole input
  if units.1.isEmpty then .error .malformed
  else
    let places := fraction units.2
    let power := exponent places.2
    if places.1.isEmpty ∧ power.1.isNone then
      if maxDigits < units.1.length then .error .numeralTooLong
      else
        let magnitude : Int := ofDigits units.1
        .ok (.int (if negative then -magnitude else magnitude), power.2)
    else
      .ok (.float (Binary64.ofDecimal negative (ofDigits (units.1 ++ places.1))
        (power.1.getD 0 - places.1.length)), power.2)

/-- A scalar other than a string. -/
def scalar (input : List Char) : Parsed RawDocument :=
  match input with
  | 'n' :: _ => word "null" .null
  | 't' :: _ => word "true" (.bool true)
  | 'f' :: _ => word "false" (.bool false)
  | 'N' :: _ => word "NaN" (.float .nan)
  | 'I' :: _ => word "Infinity" (.float (.infinite false))
  | '-' :: 'I' :: _ => word "-Infinity" (.float (.infinite true))
  | '-' :: rest => number true rest
  | _ => number false input
where
  word (spelling : String) (value : RawDocument) : Parsed RawDocument :=
    match expect? spelling.toList input with
    | some rest => .ok (value, rest)
    | none => .error .malformed

mutual

/-- A value after optional space.  The fuel bounds the values still to come and
the length of the input is always enough. -/
def value : Nat → List Char → Parsed RawDocument
  | 0, _ => .error .malformed
  | fuel + 1, input =>
      match skip input with
      | '"' :: rest =>
          match characters [] none rest with
          | .error e => .error e
          | .ok (s, rest) => .ok (.text s, rest)
      | '[' :: rest =>
          match skip rest with
          | ']' :: rest => .ok (.list [], rest)
          | _ => elements fuel [] rest
      | '{' :: rest =>
          match skip rest with
          | '}' :: rest => .ok (.object [], rest)
          | _ => entries fuel [] rest
      | rest => scalar rest

/-- Elements up to the closing bracket; the ones read so far are in reverse. -/
def elements : Nat → List RawDocument → List Char → Parsed RawDocument
  | 0, _, _ => .error .malformed
  | fuel + 1, read, input =>
      match value fuel input with
      | .error e => .error e
      | .ok (x, rest) =>
          match skip rest with
          | ',' :: rest => elements fuel (x :: read) rest
          | ']' :: rest => .ok (.list (x :: read).reverse, rest)
          | _ => .error .malformed

def entries : Nat → List (RawText × RawDocument) → List Char → Parsed RawDocument
  | 0, _, _ => .error .malformed
  | fuel + 1, read, input =>
      match skip input with
      | '"' :: rest =>
          match characters [] none rest with
          | .error e => .error e
          | .ok (key, rest) =>
              match skip rest with
              | ':' :: rest =>
                  match value fuel rest with
                  | .error e => .error e
                  | .ok (x, rest) =>
                      let read := insert key x read
                      match skip rest with
                      | ',' :: rest => entries fuel read rest
                      | '}' :: rest => .ok (.object read, rest)
                      | _ => .error .malformed
              | _ => .error .malformed
      | _ => .error .malformed

end

end Reader

/-- The raw document that a whole text spells. -/
def readRaw (text : List Char) : Except ReadError RawDocument :=
  match Reader.value (text.length + 1) text with
  | .error e => .error e
  | .ok (document, rest) =>
      if (Reader.skip rest).isEmpty then .ok document else .error .malformed

/-- The document that a whole text shows when replacements are made. -/
def read (text : List Char) : Except ReadError Document :=
  (readRaw text).map (RawDocument.shown CodePoint.replacement)

end KidsListing.Document
