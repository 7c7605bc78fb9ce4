import Issuebook.Fault
import Issuebook.Json.Reader
import Issuebook.Text.Basic

/-!
# Metadata

The lines of a metadata block. A line `key: value` that is neither blank, indented nor a
comment opens an entry; the blank and indented lines after it belong to the entry when its
value is a block or a list, and are passed over otherwise. So every line can be judged by
itself and the lines that follow it.
-/

/-!
## Scalars

The value that a written scalar stands for: nothing, a truth value, a number, a quoted
text, a list between brackets, or the text as it is.
-/

namespace Issuebook.Scalar

/-- The whole number that digits of any script write behind an optional sign. -/
def int? (text : Text) : Option Int :=
  let (negative, digits) := Text.takeSign text
  (Text.decimalNumber? digits).map fun size => if negative then -(size : Int) else size

/-- The floating-point number that digits of any script write. -/
def float? (text : Text) : Option Binary64 :=
  let (negative, unsigned) := Text.takeSign (Text.withPlainDigits text)
  Binary64.ofDigits? negative unsigned

/-- The text without its first and its last character. -/
def inner (text : Text) : Text :=
  text.tail.dropLast

/-- Whether a text of two characters or more begins and ends with a quote. -/
def isBetween (quote : Char) (text : Text) : Bool :=
  2 ≤ text.length && text.head? == some quote && text.getLast? == some quote

/-- Whether a text begins with an opening and ends with a closing bracket. -/
def isBracketed (text : Text) : Bool :=
  text.head? == some '[' && text.getLast? == some ']'

/-- The text between double quotes, by the rules of JSON or else as it stands. -/
def doubleQuoted (text : Text) : Value :=
  (Json.read? text).getD (.text (inner text))

/-- The text between single quotes, where two stand for one. -/
def singleQuoted (text : Text) : Value :=
  .text (Text.replaceAll ['\'', '\''] ['\''] (inner text))

/-- The words that stand for nothing. -/
def nullWords : List Text :=
  ["", "~", "null", "Null", "NULL"]

/-- The words that stand for true. -/
def trueWords : List Text :=
  ["true", "True", "TRUE"]

/-- The words that stand for false. -/
def falseWords : List Text :=
  ["false", "False", "FALSE"]

/-- The items of a JSON list. -/
def jsonItems? (text : Text) : Option (List Value) :=
  match Json.read? text with
  | some (.list items) => some items
  | _ => none

/-- The non-blank pieces between commas, trimmed. -/
def pieces (text : Text) : List Text :=
  ((Text.splitOn ',' text).map Text.trim).filter (· ≠ [])

/-- The value of a scalar, with that of a bracketed text that is no JSON list read by
`other`. -/
def readBy (other : Text → Value) (text : Text) : Value :=
  if nullWords.contains text then .null
  else if trueWords.contains text then .bool true
  else if falseWords.contains text then .bool false
  else
    match int? text with
    | some value => .int value
    | none =>
      match float? text with
      | some value => .float value
      | none =>
        if isBetween '"' text then doubleQuoted text
        else if isBetween '\'' text then singleQuoted text
        else if isBracketed text then
          match jsonItems? text with
          | some items => .list items
          | none => other text
        else .text text

/-- The value of a scalar with brackets nested at most `depth` deep. A bracketed text that is
no JSON list holds the scalars between its commas. -/
def readWithin : (depth : Nat) → Text → Value
  | 0 => readBy .text
  | depth + 1 => readBy fun text => .list ((pieces (inner text)).map (readWithin depth))

/-- The value of a scalar. An inner bracket is shorter than the outer one, so the length
bounds the nesting. -/
def read (text : Text) : Value :=
  readWithin text.length text

end Issuebook.Scalar

/-! ## Entries -/

namespace Issuebook.Metadata

/-- Whether a line begins with a space or a tab. -/
def isIndented (line : Text) : Bool :=
  Text.startsWith line [' '] || Text.startsWith line ['\t']

/-- Whether a line is a comment. -/
def isComment (line : Text) : Bool :=
  Text.startsWith (Text.trimStart line) ['#']

/-- Whether a line can open an entry. -/
def canOpen (line : Text) : Bool :=
  !Text.isAllBlank line && !isComment line && !isIndented line

/-- The key and the value of a line, both trimmed, when it has a key. -/
def keyValue? (line : Text) : Option (Text × Text) :=
  match Text.cutAtChar? ':' line with
  | none => none
  | some (before, after) =>
    let key := Text.trim before
    if key.isEmpty then none else some (key, Text.trim after)

/-- Whether a value announces a block. -/
def opensBlock (value : Text) : Bool :=
  Text.startsWith value ['|'] || Text.startsWith value ['>']

/-- The lines of a block: the blank and the indented ones, without their indentation. -/
def blockLines (following : List Text) : List Text :=
  (following.takeWhile fun line => Text.isAllBlank line || isIndented line).map fun line =>
    if Text.isAllBlank line then []
    else Text.trimStartBy (fun char => char == ' ' || char == '\t') line

/-- The paragraphs of lines: runs of non-blank lines joined by spaces. The first component is
the paragraph that is still open. -/
def paragraphsFrom : List Text → List Text × List Text
  | [] => ([], [])
  | line :: rest =>
    let (current, paragraphs) := paragraphsFrom rest
    let stripped := Text.trim line
    if stripped.isEmpty then
      ([], if current.isEmpty then paragraphs else Text.join [' '] current :: paragraphs)
    else (stripped :: current, paragraphs)

/-- The paragraphs of lines. -/
def paragraphs (lines : List Text) : List Text :=
  let (current, paragraphs) := paragraphsFrom lines
  if current.isEmpty then paragraphs else Text.join [' '] current :: paragraphs

/-- The text of a block: its paragraphs on a line each after `>`, its lines after `|`. -/
def blockText (mark : Text) (lines : List Text) : Text :=
  if Text.startsWith mark ['>'] then Text.trim (Text.unlines (paragraphs lines))
  else Text.trim (Text.unlines lines)

/-- Whether a line is an item of a list. -/
def isItem (line : Text) : Bool :=
  isIndented line && Text.startsWith (Text.trim line) ['-']

/-- The values of the items that follow a key. -/
def itemValues (following : List Text) : List Value :=
  (following.takeWhile isItem).map fun line => Scalar.read (Text.trim (Text.trim line).tail)

/-- The value of an entry, from what stands behind its colon and the lines that follow. -/
def entryValue (value : Text) (following : List Text) : Value :=
  if opensBlock value then .text (blockText value (blockLines following))
  else if value.isEmpty then
    match itemValues following with
    | [] => .null
    | items => .list items
  else Scalar.read value

/-- The entry that a line opens, when it opens one. -/
def entryAt? (line : Text) (following : List Text) : Option (Text × Value) :=
  if canOpen line then
    (keyValue? line).map fun (key, value) => (key, entryValue value following)
  else none

/-- The entries of lines in order, repeated keys included. -/
def pairs : List Text → List (Text × Value)
  | [] => []
  | line :: rest => (entryAt? line rest).toList ++ pairs rest

/-- The metadata of lines; of repeated keys the last value counts. -/
def read (lines : List Text) : Entries Value :=
  Entries.ofList (pairs lines)

end Issuebook.Metadata

/-!
## Fences

A document may begin with a metadata block between two lines of three dashes. The rest of
its lines is the body.
-/

namespace Issuebook

/-- The line that opens and closes a metadata block. -/
def fence : Text := "---"

namespace Document

/-- Whether a line is a fence, up to white space around it. -/
def isFence (line : Text) : Bool :=
  Text.trim line == fence

/-- Whether a line opens a document: a fence, possibly behind byte order marks. -/
def opensDocument (line : Text) : Bool :=
  isFence (Text.trimStartBy (fun char => char.val = 0xFEFF) line)

/-- The lines before the first fence and the lines after it. -/
def cutAtFence? : List Text → Option (List Text × List Text)
  | [] => none
  | line :: rest =>
    if isFence line then some ([], rest)
    else (cutAtFence? rest).map fun (before, after) => (line :: before, after)

/-- The metadata and the body of a document. A document that does not begin with a fence is
all body. -/
def split (content : Text) : Except Fault (Entries Value × Text) :=
  match Text.lines content with
  | [] => .ok ([], content)
  | first :: rest =>
    if opensDocument first then
      match cutAtFence? rest with
      | some (inner, after) => .ok (Metadata.read inner, Text.unlines after)
      | none => .error .unclosedMetadata
    else .ok ([], content)

end Document

end Issuebook
