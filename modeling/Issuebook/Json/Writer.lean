import Issuebook.Text.Printable

/-!
# Writing JSON

String literals in two spellings: one that keeps every printable character, and one that
is ASCII only and writes characters beyond the basic plane as surrogate pairs.
-/

namespace Issuebook.Json

/-- The short escape of a character, when it has one. -/
def shortEscape? (char : Char) : Option Char :=
  if char = '"' then some '"'
  else if char = '\\' then some '\\'
  else if char = '\n' then some 'n'
  else if char = '\r' then some 'r'
  else if char = '\t' then some 't'
  else if char.val = 8 then some 'b'
  else if char.val = 12 then some 'f'
  else none

/-- A sixteen-bit unit as an escape. -/
def unitEscape (unit : Nat) : Text :=
  '\\' :: 'u' :: Text.hexDigits 4 unit

/-- A character inside a literal that escapes only what it has to. -/
def stringChar (char : Char) : Text :=
  match shortEscape? char with
  | some letter => ['\\', letter]
  | none => if char.val < 32 then unitEscape char.val.toNat else [char]

/-- A string literal that escapes only quotes, backslashes and control characters. -/
def string (text : Text) : Text :=
  '"' :: (text.flatMap stringChar ++ ['"'])

/-- The sixteen-bit units of a code point. -/
def units (code : Nat) : List Nat :=
  if code < 0x10000 then [code]
  else [0xD800 + (code - 0x10000) / 0x400, 0xDC00 + (code - 0x10000) % 0x400]

/-- A character inside a literal that holds ASCII only. -/
def asciiChar (char : Char) : Text :=
  match shortEscape? char with
  | some letter => ['\\', letter]
  | none =>
    if 32 ≤ char.val ∧ char.val < 127 then [char]
    else (units char.val.toNat).flatMap unitEscape

/-- A string literal in ASCII. -/
def asciiString (text : Text) : Text :=
  '"' :: (text.flatMap asciiChar ++ ['"'])

/-- A list of string literals between brackets. -/
def stringList (texts : List Text) : Text :=
  '[' :: (Text.join ", " (texts.map string) ++ [']'])

end Issuebook.Json
