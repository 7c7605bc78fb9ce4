import Issuebook.Text.Table

/-!
# Printable characters

Everything but the categories Cc, Cf, Cs, Co, Cn, Zl, Zp and Zs; the space is printable.
-/

namespace Issuebook.Text

/-- The printable characters beyond ASCII. -/
def printableTable : List CodeRange := readRanges
  ["21 c 1 2ca 2 6 4 7 1 1 1 14 1 18d 1 26 2 32 2 3 1 37 8 1b 4 6 11 16 1 c0 1 30 2 3b 2 65 e",
   "3b 2 31 2 f 1 1c 2 1 1 b 5 1f 9 4a 1 a1 1 8 2 2 2 16 1 7 1 1 3 4 2 9 2 2 2 4 8 1 4 2 1 5 2",
   "19 2 3 1 6 4 2 2 16 1 7 1 2 1 2 1 2 2 1 1 5 4 2 2 3 3 1 7 4 1 1 7 11 a 3 1 9 1 3 1 16 1 7",
   "1 2 1 5 2 a 1 3 1 3 2 1 f 4 2 c 7 7 1 3 1 8 2 2 2 16 1 7 1 2 1 5 2 9 2 2 2 3 7 3 4 2 1 5 2",
   "12 a 2 1 6 3 3 1 4 3 2 1 1 1 2 3 2 3 3 3 c 4 5 3 3 1 4 2 1 6 1 e 15 5 d 1 3 1 17 1 10 2 9",
   "1 3 1 4 7 2 1 3 2 1 2 4 2 a 7 16 1 3 1 17 1 a 1 5 2 9 1 3 1 4 7 2 6 2 1 4 2 a 1 2 d d 1 3",
   "1 33 1 3 1 6 4 10 2 1a 1 3 1 12 3 18 1 9 1 1 2 7 3 1 4 6 1 1 1 8 6 a 2 3 c 3a 4 1d 25 2 1",
   "1 1 5 1 18 1 1 1 17 2 5 1 1 1 6 2 a 2 4 20 48 1 24 4 27 1 24 1 f 1 d 25 c6 1 1 5 1 2 179 1",
   "4 2 7 1 1 1 4 2 29 1 4 2 21 1 4 2 7 1 1 1 4 2 f 1 39 1 4 2 43 2 20 3 1a 6 56 2 6 2 280 1",
   "1c 3 59 7 16 9 18 9 14 c d 1 3 1 2 c 5e 2 a 6 a 6 e 1 b 6 59 7 2b 5 46 a 1f 1 c 4 c 4 1 3",
   "2a 2 5 b 2c 4 1a 6 b 3 3e 2 41 1 1d 2 b 6 a 6 e 2 1f 31 4d 3 2f 1 74 8 3c 3 f 3 3c 7 2b 2",
   "b 8 2b 5 216 2 6 2 26 2 6 2 8 1 1 1 1 1 1 1 1f 2 35 1 f 1 e 2 6 1 13 2 3 1 9 11 18 8 2f 11",
   "2 2 1b 1 d 3 21 f 21 f 8c 4 297 19 b 15 714 2 20 1 15d 5 2d 1 1 5 1 2 38 7 2 e 18 9 7 1 7",
   "1 7 1 7 1 7 1 7 1 7 1 7 1 7e 22 1a 1 59 c d6 1a c 5 3f 1 56 2 67 5 2b 1 5e 1 54 c 2f 1",
   "726d 3 37 9 15c 14 b8 8 cb 5 2 1 1 1 5 18 3b 3 a 6 38 8 46 8 c 6 74 b 1e 3 4e 1 b 4 21 1",
   "37 9 e 2 a 2 67 18 1c a 6 2 6 2 6 9 7 1 7 1 3c 4 7e 2 a 6 2ba4 c 17 4 31 2104 16e 2 6a 26",
   "7 c 5 5 1a 1 5 1 1 1 2 1 2 1 7d 10 1bd 2 36 7 1 20 2a 6 33 1 13 1 4 4 5 1 87 4 be 3 6 2 6",
   "2 6 2 3 3 7 1 7 d 2 2 c 1 1a 1 13 1 2 1 f 2 e 22 7b 5 3 4 2d 3 58 1 d 3 1 2f 2e 82 1d 3 31",
   "f 1c 4 24 9 1e 5 2b 5 1e 1 25 4 e 2a 9e 2 a 6 24 4 24 4 28 8 34 b c 1 f 1 7 1 2 1 b 1 f 1",
   "7 1 2 43 137 9 16 a 8 18 6 1 2a 1 9 45 6 2 1 1 2c 1 2 3 1 2 17 1 48 8 9 30 13 1 2 5 21 3",
   "1b 5 1 40 38 4 14 2 32 1 2 5 8 1 3 1 1d 2 3 4 a 7 9 7 40 20 27 4 c 9 36 3 1d 2 1b 5 1a 7 4",
   "c 7 50 49 37 33 d 33 7 2e 8 a 126 1f 1 2a 1 3 2 2 4e 28 8 2a 16 1a 26 1c 14 17 9 4e 4 24 9",
   "3e 1 5 d 19 7 a 6 35 1 12 8 27 9 60 1 14 b 12 1 2c 41 7 1 1 1 4 1 f 1 b 6 3b 5 a 6 4 1 8 2",
   "2 2 16 1 7 1 2 1 5 1 a 2 2 2 3 2 1 6 1 5 7 2 7 3 5 8b 5c 1 5 1e 48 8 a a6 36 2 26 22 45 b",
   "a 6 d 13 3a 6 a 36 1b 2 f 4 17 b9 3c 64 53 c 8 2 1 2 8 1 2 1 1e 1 2 2 c 9 a 46 8 2 2e 2 b",
   "1b 48 8 53 d 49 107 9 1 2d 1 e a 1d 3 20 2 16 1 e 49 7 1 2 1 2c 3 1 1 2 1 9 8 a 6 6 1 2 1",
   "25 1 2 1 6 7 a 136 19 b7 1 f 32 d 39b 66 6f 1 5 b c4 a4c 63 d 42f fd1 247 21b9 239 7 1f 1",
   "a 4 51 1 a 6 1e 2 6 a 46 a a 1 7 1 15 5 13 2b0 5b 65 4b 4 39 7 11 40 5 b 2 e 17f8 8 4d6 2a",
   "9 22e7 4 1 7 1 2 1 123 2d 3 11 4 8 18c 904 6b 5 d 3 9 7 a 2 4 1260 2e 2 17 9 74 3c f6 a 27",
   "2 4a 8 70 15 46 9a 14 c 57 9 19 87 55 1 47 1 2 2 1 2 2 2 4 1 c 1 1 1 7 1 41 1 4 2 8 1 7 1",
   "1c 1 4 1 5 1 1 3 7 1 154 2 124 2 2be f 5 1 f 450 1f e1 7 1 11 2 7 1 2 1 5 d5 2d 3 e 2 a 4",
   "2 140 1f 11 3a 5 1 4e0 7 1 4 1 2 1 f 1 c5 2 10 29 4c 4 a 4 2 311 44 4c 3d c2 4 1 1b 1 2 1",
   "1 2 1 1 a 1 4 1 1 1 1 6 1 4 1 1 1 1 1 1 3 1 2 1 1 2 1 1 1 1 1 1 1 1 1 1 2 1 1 2 4 1 7 1 4",
   "1 4 1 1 1 a 1 11 5 3 1 5 1 11 34 2 10e 2c 4 64 c f 2 f 1 f 1 25 a ae 38 1d d 2c 4 9 7 2 e",
   "6 9a 3d8 5 10 3 d 3 74 c 59 7 c 4 1 f c 4 38 8 a 6 28 8 1e 2 2 4e 154 c e 2 5 3 5 3 7 9 1d",
   "3 b 5 6 a a 6 8 8 7 9 93 1 37 25 a 406 a6e0 20 1039 7 de 2 1682 e 1d31 c1f 21e 5e2 134b",
   "aedb5 f0"]

/-- Whether a character shows as itself between quotes. -/
def isPrintable (char : Char) : Bool :=
  if char.val < 128 then 32 ≤ char.val && char.val < 127
  else inRanges printableTable char.val.toNat

end Issuebook.Text

/-!
## Quoted text

Text between quotes in messages and in shown data. The quote is the apostrophe, unless
the text holds one and holds no double quote. Characters that do not print are escaped.
-/

namespace Issuebook.Text

/-- A hexadecimal digit in small letters. -/
def hexDigit (value : Nat) : Char :=
  if value < 10 then Char.ofNat (48 + value) else Char.ofNat (87 + value)

/-- The last `width` hexadecimal digits of a number. -/
def hexDigits : (width number : Nat) → Text
  | 0, _ => []
  | width + 1, number => hexDigits width (number / 16) ++ [hexDigit (number % 16)]

/-- The quote that surrounds a text. -/
def quoteFor (text : Text) : Char :=
  if '\'' ∈ text ∧ '"' ∉ text then '"' else '\''

/-- A character between quotes. -/
def quotedChar (quote char : Char) : Text :=
  let code := char.val.toNat
  if char = quote ∨ char = '\\' then ['\\', char]
  else if char = '\n' then ['\\', 'n']
  else if char = '\r' then ['\\', 'r']
  else if char = '\t' then ['\\', 't']
  else if isPrintable char then [char]
  else if code < 256 then '\\' :: 'x' :: hexDigits 2 code
  else if code < 65536 then '\\' :: 'u' :: hexDigits 4 code
  else '\\' :: 'U' :: hexDigits 8 code

/-- The text between quotes. -/
def quoted (text : Text) : Text :=
  let quote := quoteFor text
  quote :: (text.flatMap (quotedChar quote) ++ [quote])

end Issuebook.Text

/-!
## Columns

The columns that a text takes on a terminal. Most characters take one, ideographs, syllable
blocks and pictures two, and marks, format characters and controls none. A joiner lets the
character behind it share the columns of the one before, and the selector U+FE0F turns a sign
into a picture, which makes it one column wider.
-/

namespace Issuebook.Text

/-- The characters beyond ASCII that take no column: controls, marks, format characters but the
soft hyphen and the signs that enclose the digits behind them, the separators of lines and
paragraphs, vowels and finals of syllable blocks, skin tones, and whatever else is ignored by
default, assigned or not, but for the filler that begins a syllable block. -/
def zeroColumnTable : List CodeRange := readRanges
  ["0 20 260 70 113 7 107 2d 1 1 1 2 1 2 1 1 48 b 1 1 2e 15 10 1 65 7 2 6 2 2 1 4 23 1 1e 1b",
   "5b b 3a 9 9 1 18 4 1 9 1 3 1 5 2b 3 3b 9 2a 18 1 21 36 3 1 12 1 7 a 2 1d 3 38 1 1 7 2 2",
   "2 3 9 1 a 2 1a 1 2 3 38 1 1 5 4 2 2 3 3 1 1e 2 3 1 b 3 38 1 1 8 1 3 1 3 14 2 16 6 1 3 38",
   "1 1 7 2 2 2 3 7 3 a 2 1e 1 3b 5 3 3 1 4 9 1 28 5 37 1 1 7 1 3 1 4 7 2 b 2 1d 3 38 1 1 7",
   "1 3 1 4 7 2 b 2 f 1 c 4 37 2 1 7 1 3 1 4 9 1 a 2 1d 3 46 1 4 6 1 1 1 8 12 2 3d 1 2 7 c 8",
   "62 1 2 9 b 7 49 2 1b 1 1 1 1 1 4 2 31 14 1 2 5 b 1 24 9 1 64 14 17 4 4 3 1 3 2 7 3 4 d c",
   "1 1 a 4 c2 a0 15d 3 3b2 4 1c 3 1d 2 1e 2 40 20 9 1 2d 5 75 2 22 1 76 c 4 c db 5 39 a 1",
   "1d 2 1 30 2e 2 c 14 5 2f 11 26 9 c 3 1e d 38 e 30 14 98 3 1 15 4 1 6 1 2 3 c6 40 20b 5",
   "18 7 31 10 60 21 bfe 3 8d 1 60 20 22a 6 69 2 c9 1 750a 4 1 a 20 2 50 2 110 1 3 1 4 1 17",
   "5 4 1 53 2 32 12 1a 12 d 1 26 8 19 d 2c 4 2f e 24 1 43 e c 1 8 2 2d 3 32 1 1 3 2 2 5 2 1",
   "1 29 5 5 2 ec 8 1 2 2bc2 50 231e 1 2e1 10 10 10 cf 1 a0 1 4f c 201 1 e2 1 95 5 686 3 1 2",
   "5 4 28 3 4 1 a5 2 23d 4 41 5 13d 2 4d 6 46 b 31 4 7a 3 35 f 29 1 2 2 a 4 2d b 7 1 3d 3",
   "24 e 10 2 2c 1 c 3 30 e 8 4 1 2 5c c 6 1 2 1 9d c 15 4 37 2 1 7 2 2 2 3 9 1 a 2 2 7 3 5",
   "43 9 1 1 2 1 1 4 1 5 1 1 e 2 52 12 17 1 51 14 eb 7 2 9 1b 2 52 11 6a d 65 f 100 f f5 6 1",
   "2 2 4 1 1 1 2 8d 7 2 7 3 1 1c a 28 7 1 4 8 1 9 b 2e 10 c6 8 c7 8 1 8 52 16 1 e 7a 6 3 1",
   "1 2 1 7 1 1 42 5 1 2 1 5 15b 4 9 2 1 1 30 7 3 5 17 1 14d5 11 6 f 2cc8 12 9c0 5 3b 7 418",
   "1 1 37 7 4 51 1 b 2 4cab 2 1 4 125c 2e 2 17 21e 5 3 16 2 7 1e 4 94 3 7bb 37 4 32 8 1 e 1",
   "16 5 1 f 550 7 1 11 2 7 1 2 1 5 64 1 a0 7 177 1 3d 4 1fc 4 fe 2 f3 1 2 1 7 2 5 1 1da 7",
   "6d 7 ab0 5 c0c00 1000"]

/-- The characters beyond ASCII that take two columns. -/
def wideTable : List CodeRange := readRanges
  ["1080 60 11ba 2 d 2 be 4 3 1 2 1 209 2 15 2 1a 8 10 c 2b 1 a 6 3 1 d 1 8 2 11 2 5 2 8 1 5",
   "1 15 1 7 2 1 1 4 1 2 1 7 1 4 2 1c 1 23 1 1 1 4 3 1 1 3d 3 18 1 e 1 35b 2 33 1 4 1 32a 1a",
   "1 59 c d6 1a 3a 6 f 2 56 4 65 5 2b 1 33 1 2a 1 56 9 30 1 28 8 723d 3 37 499 1d 283 2ba4",
   "215c 200 310 a 16 23 1 13 1 4 95 60 7f 7 6ff9 4 e 5 9 1cd6 29 20 61 73 21fd 4 1 7 1 2 1",
   "123 f 1 1d 3 2 1 e 4 8 18c 2004 57 9 17 1c8d 1 ca 1 be 1 2 a 65 3 d 2c 4 9 7 2 e 6 9a 21",
   "c 9 1 46 1 16 c 2b 4 5 c 11 3 1 3 3 5 3f 1 1 1 bb 2 3f d 4 1 18 12 1 1a 2 d 1 56 55 30",
   "46 6 1 3 3 2 4 3 4 b 2 7 9 e3 c 4 1 11b 2f 1 a 1 b9 70 d 3 b 3 39 1 1 4 10 2 c 4 a 507",
   "fffe 2 fffe"]

/-- The signs beyond ASCII that the selector U+FE0F turns into pictures. -/
def pictureSignTable : List CodeRange := readRanges
  ["29 1 4 1 1f8d 1 c 1 d8 1 16 1 5a 6 f 2 17d 1 a6 1 1d 3 1 2 5 3 c7 1 e7 2 a 1 9 1 3a 2 3",
   "5 9 1 2 1 6 1 4 1 2 1 1 2 2 1 3 1 3 2 8 3 5 1 1 1 1c 2 2 1 1 2 1 1 12 1 2 1 13 1 1 4 1 1",
   "1 2 3 1 6 1 8 2 16 1 6 1 1 1 1 1 15 1 6 2 2 1 2 3 8 1 5 2 2 2 1 1 2 1 1 1 1 1 6 1 3 1 11",
   "2 f 1 2 1 1b 2 3c 1 192 2 1cf 3 1c668 2 c 2 1a1 1 2 9 9 1 46 1 18 2 1 3 2 2 2b 4 5 c 13",
   "1 1 1 1 1 47 1 1 1 bb 1 4b 2 24 2 2 7 d 1 2 4 2 1 14 1 2 1 8 2 9 1 5 3 c 3 8 3 2 1 1 1 4",
   "1 6 1 3 1 6 1 d0 1 1 3 10 6 3 1 6 1 2 1"]

/-- The columns of a character by itself. -/
def charColumns (char : Char) : Nat :=
  let code := char.val.toNat
  if code < 128 then (if code < 32 ∨ code = 127 then 0 else 1)
  else if inRanges zeroColumnTable code then 0
  else if inRanges wideTable code then 2
  else 1

/-- Whether the selector U+FE0F makes a character wider. -/
def isPictureSign (char : Char) : Bool :=
  char.isDigit || char = '#' || char = '*' || inRanges pictureSignTable char.val.toNat

/-- The columns of a text behind others; `last` is the character before it that takes columns,
unless a selector followed it. -/
def columnsFrom (last : Option Char) : Text → Nat
  | [] => 0
  | '\u200d' :: _ :: rest => columnsFrom last rest
  | '\ufe0f' :: rest =>
    (if last.any isPictureSign then 1 else 0) + columnsFrom none rest
  | char :: rest =>
    if charColumns char = 0 then columnsFrom last rest
    else charColumns char + columnsFrom (some char) rest

/-- The columns of a text. -/
def columns (text : Text) : Nat :=
  columnsFrom none text

end Issuebook.Text
