/-!
# Text

Text is the list of its characters, so every law about text is a law about lists.
String literals coerce to it. This module holds the operations that need no
character class: cutting, joining, replacing, and the order of code points.
-/

namespace Issuebook

/-- A text is the list of its characters. -/
abbrev Text := List Char

/-- A string stands for its characters. -/
instance : Coe String Text := ⟨String.toList⟩

namespace Text

/-- The remainder of `text` after `head`, when `text` begins with it. -/
def dropHead? : (head text : Text) → Option Text
  | [], text => some text
  | _ :: _, [] => none
  | expected :: head, found :: text =>
    if expected = found then dropHead? head text else none

/-- Whether `text` begins with `head`. -/
def startsWith (text head : Text) : Bool :=
  (dropHead? head text).isSome

/-- Whether `text` ends with `tail`. -/
def endsWith (text tail : Text) : Bool :=
  startsWith text.reverse tail.reverse

/-- The part before the first occurrence of `needle` and the part after it. -/
def cutAt? (needle : Text) : Text → Option (Text × Text)
  | [] => if needle.isEmpty then some ([], []) else none
  | char :: rest =>
    match dropHead? needle (char :: rest) with
    | some after => some ([], after)
    | none => (cutAt? needle rest).map fun (before, after) => (char :: before, after)

/-- The part before the first character `mark` and the part after it. -/
def cutAtChar? (mark : Char) : Text → Option (Text × Text)
  | [] => none
  | char :: rest =>
    if char = mark then some ([], rest)
    else (cutAtChar? mark rest).map fun (before, after) => (char :: before, after)

/-- The part before the last character `mark` and the part after it. -/
def cutAtLastChar? (mark : Char) : Text → Option (Text × Text)
  | [] => none
  | char :: rest =>
    match cutAtLastChar? mark rest with
    | some (before, after) => some (char :: before, after)
    | none => if char = mark then some ([], rest) else none

/-- The pieces between the characters `mark`; a text without it is one piece. -/
def splitOn (mark : Char) : Text → List Text
  | [] => [[]]
  | char :: rest =>
    if char = mark then [] :: splitOn mark rest
    else
      match splitOn mark rest with
      | [] => [[char]]
      | piece :: pieces => (char :: piece) :: pieces

/-- The pieces in order with `separator` between neighbours. -/
def join (separator : Text) : List Text → Text
  | [] => []
  | [piece] => piece
  | piece :: next :: pieces => piece ++ separator ++ join separator (next :: pieces)

/-- Replacement of a non-empty text, leftmost occurrence first; `skip` counts the
characters of an occurrence that is already replaced. -/
def replaceFrom (old new : Text) : (skip : Nat) → Text → Text
  | _, [] => []
  | skip + 1, _ :: rest => replaceFrom old new skip rest
  | 0, char :: rest =>
    match dropHead? old (char :: rest) with
    | some _ => new ++ replaceFrom old new (old.length - 1) rest
    | none => char :: replaceFrom old new 0 rest

/-- Every occurrence of `old` becomes `new`. The empty text occurs before every
character and at the end. -/
def replaceAll (old new text : Text) : Text :=
  if old.isEmpty then new ++ text.flatMap fun char => char :: new
  else replaceFrom old new 0 text

/-- Texts compare by code point, a proper beginning before its continuation. -/
def le : (left right : Text) → Bool
  | [], _ => true
  | _ :: _, [] => false
  | first :: left, second :: right =>
    if first = second then le left right else first.val < second.val

/-- The number of bytes of a text in UTF-8. -/
def byteLength (text : Text) : Nat :=
  text.foldl (fun size char => size + char.utf8Size) 0

/-- The decimal digits of a natural number. -/
def ofNat (number : Nat) : Text :=
  Nat.toDigits 10 number

/-- The decimal digits of an integer behind its minus sign, if it has one. -/
def ofInt : Int → Text
  | .ofNat number => ofNat number
  | .negSucc number => '-' :: ofNat (number + 1)

/-- The digits of a natural number, filled up with zeros to `width`. -/
def padded (width number : Nat) : Text :=
  let digits := ofNat number
  List.replicate (width - digits.length) '0' ++ digits

/-- Removes every character at the front that satisfies `drop`. -/
def trimStartBy (drop : Char → Bool) (text : Text) : Text :=
  text.dropWhile drop

/-- Removes every character at the end that satisfies `drop`. -/
def trimEndBy (drop : Char → Bool) (text : Text) : Text :=
  (text.reverse.dropWhile drop).reverse

/-- Removes every character at either end that satisfies `drop`. -/
def trimBy (drop : Char → Bool) (text : Text) : Text :=
  trimEndBy drop (trimStartBy drop text)

/-- Each maximal run of characters that satisfy `inRun` becomes `replacement`; `within` tells
whether the character before was in such a run. -/
def replaceRunsFrom (inRun : Char → Bool) (replacement : Text) (within : Bool) : Text → Text
  | [] => []
  | char :: rest =>
    if inRun char then
      (if within then [] else replacement) ++ replaceRunsFrom inRun replacement true rest
    else char :: replaceRunsFrom inRun replacement false rest

/-- Each maximal run of characters that satisfy `inRun` becomes `replacement`. -/
def replaceRuns (inRun : Char → Bool) (replacement text : Text) : Text :=
  replaceRunsFrom inRun replacement false text

/-- The number of characters `mark` at the front. -/
def countLeading (mark : Char) (text : Text) : Nat :=
  (text.takeWhile (· = mark)).length

end Text

end Issuebook

/-!
## Text as bytes

The bytes of a text in UTF-8, and the text of bytes that are UTF-8.
-/

namespace Issuebook.Text

/-- The bytes of a text in UTF-8. -/
def toUtf8 (text : Text) : List UInt8 :=
  (String.ofList text).toUTF8.toList

/-- The text of bytes, when they are UTF-8. -/
def ofUtf8? (bytes : List UInt8) : Option Text :=
  (String.fromUTF8? ⟨bytes.toArray⟩).map String.toList

end Issuebook.Text

/-!
## Blank characters

The characters that count as white space: the bidirectional classes B, S and WS and
the category Zs of the Unicode Character Database. Trimming and word splitting use them.
-/

namespace Issuebook.Text

/-- White space, in ASCII and beyond. -/
def isBlank (char : Char) : Bool :=
  let code := char.val.toNat
  (9 ≤ code && code ≤ 13) || (28 ≤ code && code ≤ 32) || code == 0x85 || code == 0xA0 ||
  code == 0x1680 || (0x2000 ≤ code && code ≤ 0x200A) || code == 0x2028 || code == 0x2029 ||
  code == 0x202F || code == 0x205F || code == 0x3000

/-- Every character is white space; the empty text qualifies. -/
def isAllBlank (text : Text) : Bool :=
  text.all isBlank

/-- The text without white space at its front. -/
def trimStart (text : Text) : Text :=
  trimStartBy isBlank text

/-- The text without white space at its end. -/
def trimEnd (text : Text) : Text :=
  trimEndBy isBlank text

/-- The text without white space at either end. -/
def trim (text : Text) : Text :=
  trimBy isBlank text

/-- The words of a text, with the word that a cut in front of the text would leave open. -/
def wordsFrom : Text → Text × List Text
  | [] => ([], [])
  | char :: rest =>
    let (word, words) := wordsFrom rest
    if isBlank char then ([], if word.isEmpty then words else word :: words)
    else (char :: word, words)

/-- The maximal runs without white space. -/
def words (text : Text) : List Text :=
  let (word, words) := wordsFrom text
  if word.isEmpty then words else word :: words

end Issuebook.Text

/-!
## Lines

Line boundaries are the line feed, the carriage return, the pair of both, vertical tab,
form feed, the separators U+001C to U+001E, U+0085, U+2028 and U+2029. A boundary at the
end of a text opens no further line.
-/

namespace Issuebook.Text

/-- The characters that end a line. -/
def isLineBreak (char : Char) : Bool :=
  let code := char.val.toNat
  (10 ≤ code && code ≤ 13) || (28 ≤ code && code ≤ 30) || code == 0x85 ||
  code == 0x2028 || code == 0x2029

/-- Puts a character at the front of the first line. -/
def consLine (char : Char) : List Text → List Text
  | [] => [[char]]
  | line :: lines => (char :: line) :: lines

/-- The lines of a text without their boundaries. -/
def lines : Text → List Text
  | [] => []
  | '\r' :: '\n' :: rest => [] :: lines rest
  | char :: rest =>
    if isLineBreak char then [] :: lines rest else consLine char (lines rest)

/-- The lines of a text, each with its boundary; together they are the text. -/
def linesWithBreaks : Text → List Text
  | [] => []
  | '\r' :: '\n' :: rest => ['\r', '\n'] :: linesWithBreaks rest
  | char :: rest =>
    if isLineBreak char then [char] :: linesWithBreaks rest
    else consLine char (linesWithBreaks rest)

/-- The lines joined by line feeds. -/
def unlines (lines : List Text) : Text :=
  join ['\n'] lines

/-- Carriage returns, alone or before a line feed, become line feeds. -/
def withLineFeeds : Text → Text
  | [] => []
  | '\r' :: '\n' :: rest => '\n' :: withLineFeeds rest
  | char :: rest => (if char = '\r' then '\n' else char) :: withLineFeeds rest

end Issuebook.Text
