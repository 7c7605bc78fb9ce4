import Issuebook.Number.Binary64
import Issuebook.Time.Calendar
import Issuebook.Text.Basic

/-!
# Reading time stamps

The written forms of ISO 8601: a date with or without dashes, as month and day or as week
and day; any one character; a time with or without colons and with a fraction; a distance
from universal time. A text is read as if the character zero followed it.
-/

namespace Issuebook

namespace Stamp

/-- The character that stands behind every text. -/
def endMark : Char := Char.ofNat 0

/-- The number that the next `count` ASCII digits write, and the rest. -/
def takeNumber (count : Nat) (text : Text) : Option (Nat × Text) :=
  let digits := text.take count
  if digits.length = count ∧ digits.all Char.isDigit then
    some (digits.foldl (fun number digit => number * 10 + (digit.val.toNat - 48)) 0,
      text.drop count)
  else none

/-- The number of digits from position seven on, and those seven. -/
def weekDigitsEnd (text : Text) : Nat :=
  7 + ((text.drop 7).takeWhile Char.isDigit).length

/-- Where the date of a text of seven characters or more ends. Week dates are told from
their separators by what follows. -/
def dateEnd (text : Text) : Option Nat :=
  let at? (position : Nat) : Char := text.getD position endMark
  if text.length = 7 then some 7
  else if at? 4 = '-' then
    if at? 5 = 'W' then
      if 8 < text.length ∧ at? 8 = '-' then
        if text.length = 9 then none
        else if 10 < text.length ∧ (at? 10).isDigit then some 8
        else some 10
      else some 8
    else some 10
  else if at? 4 = 'W' then
    let stop := weekDigitsEnd text
    if stop < 9 then some stop else if stop % 2 = 0 then some 7 else some 8
  else some 8

/-- The rest of a text after a dash, when dashes are in use. -/
def skipDash (dashed : Bool) (text : Text) : Option Text :=
  if dashed then
    match text with
    | '-' :: rest => some rest
    | _ => none
  else some text

/-- The date at the front of a text, which has to end at `stop`. -/
def readDate (stop : Nat) (text : Text) : Option Date := do
  let (year, rest) ← takeNumber 4 text
  let dashed := rest.head? == some '-'
  let rest := if dashed then rest.tail else rest
  match rest with
  | 'W' :: rest =>
    let (week, rest) ← takeNumber 2 rest
    if text.length - rest.length < stop then
      let rest ← skipDash dashed rest
      let (day, _) ← takeNumber 1 rest
      Date.ofWeek? year week day
    else Date.ofWeek? year week 1
  | rest =>
    let (month, rest) ← takeNumber 2 rest
    let rest ← skipDash dashed rest
    let (day, rest) ← takeNumber 2 rest
    if text.length - rest.length = stop then some ⟨year, month, day⟩ else none

/-- The fraction of a second in the next `left` bytes, cut after six digits, and whether
the text ends with it. -/
def readFraction (left : Nat) (text : Text) : Option (Nat × Bool) := do
  let count := Nat.min 6 left
  let (number, rest) ← takeNumber count text
  let rest := rest.dropWhile Char.isDigit
  pure (number * Power.ten (6 - count), rest.headD endMark == endMark)

/-- Pairs of digits in the next `left` bytes, at most `parts` of them, a fraction, and
whether the text ends with them. The first pair decides whether colons are in use. -/
def readPairs : (parts : Nat) → (colons : Option Bool) → (left : Nat) → Text →
    Option (List Nat × Nat × Bool)
  | 0, _, left, text => do
    let (micro, ended) ← readFraction left text
    pure ([], micro, ended)
  | parts + 1, colons, left, text => do
    let (pair, rest) ← takeNumber 2 text
    let next := rest.headD endMark
    let separated := colons.getD (next == ':')
    if left ≤ 3 then pure ([pair], 0, next == endMark)
    else if separated && next == ':' then
      let (pairs, micro, ended) ← readPairs parts (some separated) (left - 3) rest.tail
      pure (pair :: pairs, micro, ended)
    else if next == '.' || next == ',' then
      let (micro, ended) ← readFraction (left - 3) rest.tail
      pure ([pair], micro, ended)
    else if !separated then
      let (pairs, micro, ended) ← readPairs parts (some separated) (left - 2) rest
      pure (pair :: pairs, micro, ended)
    else none

/-- The hour, minute, second and fraction in the next `left` bytes, and whether the text
ends with them. -/
def readClock (left : Nat) (text : Text) : Option (Clock × Bool) := do
  let (pairs, micro, ended) ← readPairs 3 none left text
  pure (⟨pairs.getD 0 0, pairs.getD 1 0, pairs.getD 2 0, micro⟩, ended)

/-- The distance from universal time behind its sign. A whole day or more is none. -/
def readOffset (negative : Bool) (text : Text) : Option Int := do
  let (clock, ended) ← readClock (Text.byteLength text) text
  let seconds : Int := (clock.hour * 60 + clock.minute) * 60 + clock.second
  let size : Int := if seconds = 0 then 0 else seconds * 1000000 + clock.micro
  if ended && size < dayMicros then pure (if negative then -size else size) else none

/-- Whether a character begins the distance from universal time. -/
def opensOffset (char : Char) : Bool :=
  char == '+' || char == '-' || char == 'Z'

/-- The time of day and the distance from universal time that a text writes. -/
def readTime (text : Text) : Option (Clock × Option Int) := do
  let front := text.takeWhile fun char => !opensOffset char
  let (clock, ended) ← readClock (Text.byteLength front) text
  match text.drop front.length with
  | [] => if ended then pure (clock, none) else none
  | 'Z' :: rest => if rest.headD endMark == endMark then pure (clock, some 0) else none
  | sign :: rest =>
    let offset ← readOffset (sign == '-') rest
    pure (clock, some offset)

/-- The day, the time of day, and the distance from universal time if it is given. -/
def readParts (text : Text) : Option (Date × Clock × Option Int) := do
  if text.length < 7 then none
  else
    let stop ← dateEnd text
    let date ← readDate stop text
    let (clock, offset) ←
      match text.drop stop with
      | [] => some (Clock.midnight, none)
      | _ :: rest => readTime rest
    if date.isValid && clock.isValid then pure (date, clock, offset) else none

/-- The text with the letter of universal time at its end written out. -/
def expandZulu (text : Text) : Text :=
  if text.getLast? = some 'Z' then text.dropLast ++ "+00:00" else text

/-- The stamp that a text writes between white space. Without a distance from universal time
it is in universal time. -/
def ofText? (text : Text) : Option Stamp := do
  let (date, clock, offset) ← readParts (expandZulu (Text.trim text))
  pure ⟨date, clock, offset.getD 0⟩

/-- The stamp of an optional text. -/
def ofOptional? (text : Option Text) : Option Stamp :=
  text.bind ofText?

end Stamp

end Issuebook
