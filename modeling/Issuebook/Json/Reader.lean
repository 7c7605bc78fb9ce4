import Issuebook.Fault
import Issuebook.Value.Basic
import Issuebook.Number.Reading

/-!
# Reading JSON

A text holds one value between white space. Beyond the standard the names `NaN`,
`Infinity` and `-Infinity` are numbers. Of repeated names in an object the last value
counts, at the place of the first. Each reader returns the value and the rest of the text.

A text is made of characters, so half of a surrogate pair that is escaped alone is refused. The
reader goes down into lists and objects only so far: a text that nests deeper is a fault of another
kind than one that is not JSON (`load`).
-/

namespace Issuebook.Json

/-- The white space of JSON. -/
def isSpace (char : Char) : Bool :=
  char == ' ' || char == '\t' || char == '\n' || char == '\r'

/-- The text without white space at its front. -/
def skipSpace (text : Text) : Text :=
  text.dropWhile isSpace

/-- The value of a hexadecimal digit. -/
def hexDigitValue? (char : Char) : Option Nat :=
  let code := char.val.toNat
  if 48 ≤ code ∧ code ≤ 57 then some (code - 48)
  else if 97 ≤ code ∧ code ≤ 102 then some (code - 87)
  else if 65 ≤ code ∧ code ≤ 70 then some (code - 55)
  else none

/-- The number that four hexadecimal digits write. -/
def unit? (first second third fourth : Char) : Option Nat := do
  let first ← hexDigitValue? first
  let second ← hexDigitValue? second
  let third ← hexDigitValue? third
  let fourth ← hexDigitValue? fourth
  pure (((first * 16 + second) * 16 + third) * 16 + fourth)

/-- The character that a letter after a backslash stands for. -/
def unescape? (letter : Char) : Option Char :=
  if letter = '"' ∨ letter = '\\' ∨ letter = '/' then some letter
  else if letter = 'b' then some (Char.ofNat 8)
  else if letter = 'f' then some (Char.ofNat 12)
  else if letter = 'n' then some '\n'
  else if letter = 'r' then some '\r'
  else if letter = 't' then some '\t'
  else none

/-- The code points and escaped units of a literal up to its closing quote, and the rest. -/
def readUnits : Text → Option (List Nat × Text)
  | [] => none
  | '"' :: rest => some ([], rest)
  | '\\' :: 'u' :: first :: second :: third :: fourth :: rest => do
    let unit ← unit? first second third fourth
    let (units, rest) ← readUnits rest
    pure (unit :: units, rest)
  | '\\' :: letter :: rest => do
    let char ← unescape? letter
    let (units, rest) ← readUnits rest
    pure (char.val.toNat :: units, rest)
  | char :: rest =>
    if char.val < 32 ∨ char = '\\' then none
    else do
      let (units, rest) ← readUnits rest
      pure (char.val.toNat :: units, rest)

/-- The character of a code point; half of a pair has none. -/
def charOf? (code : Nat) : Option Char :=
  if code.isValidChar then some (Char.ofNat code) else none

/-- The characters of code points and units, pairs of halves joined, if no half stands alone. -/
def joinUnits? : List Nat → Option Text
  | [] => some []
  | [unit] => (charOf? unit).map ([·])
  | high :: low :: rest =>
    if 0xD800 ≤ high ∧ high < 0xDC00 ∧ 0xDC00 ≤ low ∧ low < 0xE000 then
      (joinUnits? rest).map
        (Char.ofNat (0x10000 + (high - 0xD800) * 0x400 + (low - 0xDC00)) :: ·)
    else
      (charOf? high).bind fun char => (joinUnits? (low :: rest)).map (char :: ·)

/-- The text of a literal after its opening quote, and the rest. -/
def readString (text : Text) : Option (Text × Text) :=
  (readUnits text).bind fun (units, rest) => (joinUnits? units).map (·, rest)

/-- The fraction after a number's whole part, when there is one. -/
def takeFraction (text : Text) : Option Text × Text :=
  match text with
  | '.' :: rest =>
    let (digits, after) := Text.takeDigits rest
    if digits.isEmpty then (none, text) else (some digits, after)
  | _ => (none, text)

/-- The exponent after a number's digits, when there is one. -/
def takeExponent (text : Text) : Option Int × Text :=
  match text with
  | mark :: rest =>
    if mark = 'e' ∨ mark = 'E' then
      let (negative, unsigned) := Text.takeSign rest
      let (digits, after) := Text.takeDigits unsigned
      if digits.isEmpty then (none, text)
      else
        let size : Int := Text.digitsNumber digits
        (some (if negative then -size else size), after)
    else (none, text)
  | [] => (none, text)

/-- The whole part of a number: one zero, or digits that start with another. -/
def takeWhole? (text : Text) : Option (Text × Text) :=
  match text with
  | '0' :: rest => some (['0'], rest)
  | _ =>
    let (digits, rest) := Text.takeDigits text
    if digits.isEmpty then none else some (digits, rest)

/-- An unsigned number and the rest. With a fraction or an exponent it is floating. -/
def readNumber (negative : Bool) (text : Text) : Option (Value × Text) := do
  let (whole, rest) ← takeWhole? text
  let (fraction, rest) := takeFraction rest
  let (exponent, rest) := takeExponent rest
  if fraction.isNone && exponent.isNone then
    let size : Int := Text.digitsNumber whole
    pure (.int (if negative then -size else size), rest)
  else
    let fraction := fraction.getD []
    let digits := (whole ++ fraction).dropWhile (· = '0')
    pure (.float (Binary64.ofDecimal negative (Text.digitsNumber digits) digits.length
      (exponent.getD 0 - fraction.length)), rest)

/-- The values with a name of their own. -/
def namedValues : List (Text × Value) :=
  [("null", .null), ("true", .bool true), ("false", .bool false), ("NaN", .float .nan),
   ("Infinity", .float (.infinite false)), ("-Infinity", .float (.infinite true))]

/-- A named value at the front of the text, and the rest. -/
def readNamed (text : Text) : Option (Value × Text) :=
  namedValues.findSome? fun (name, value) =>
    (Text.dropHead? name text).map fun rest => (value, rest)

/-- A value that is no string, list or object, and the rest. -/
def readAtom (text : Text) : Option (Value × Text) :=
  match readNamed text with
  | some read => some read
  | none =>
    match text with
    | '-' :: rest => readNumber true rest
    | _ => readNumber false text

mutual

/-- A value at the front of the text, and the rest; every level takes one from `fuel`. -/
def readValue : (fuel : Nat) → Text → Option (Value × Text)
  | 0, _ => none
  | fuel + 1, text =>
    match text with
    | '"' :: rest => (readString rest).map fun (written, rest) => (.text written, rest)
    | '[' :: rest =>
      match skipSpace rest with
      | ']' :: rest => some (.list [], rest)
      | rest => (readItems fuel rest).map fun (items, rest) => (.list items, rest)
    | '{' :: rest =>
      match skipSpace rest with
      | '}' :: rest => some (.record [], rest)
      | rest =>
        (readFields fuel rest).map fun (fields, rest) => (.record (Entries.ofList fields), rest)
    | text => readAtom text

/-- The items of a list up to its closing bracket, and the rest. -/
def readItems : (fuel : Nat) → Text → Option (List Value × Text)
  | 0, _ => none
  | fuel + 1, text => do
    let (item, rest) ← readValue fuel text
    match skipSpace rest with
    | ']' :: rest => pure ([item], rest)
    | ',' :: rest =>
      let (items, rest) ← readItems fuel (skipSpace rest)
      pure (item :: items, rest)
    | _ => none

/-- The fields of an object up to its closing brace, and the rest. -/
def readFields : (fuel : Nat) → Text → Option (List (Text × Value) × Text)
  | 0, _ => none
  | fuel + 1, text =>
    match text with
    | '"' :: rest => do
      let (key, rest) ← readString rest
      match skipSpace rest with
      | ':' :: rest =>
        let (value, rest) ← readValue fuel (skipSpace rest)
        match skipSpace rest with
        | '}' :: rest => pure ([(key, value)], rest)
        | ',' :: rest =>
          let (fields, rest) ← readFields fuel (skipSpace rest)
          pure ((key, value) :: fields, rest)
        | _ => none
      | _ => none
    | _ => none

end

/-- The value that a whole text holds. Every level of the reading consumes a character, so
the length of the text bounds the levels. -/
def read? (text : Text) : Option Value := do
  let (value, rest) ← readValue (2 * text.length + 2) (skipSpace text)
  if (skipSpace rest).isEmpty then pure value else none

mutual

/-- How many levels the reader goes down in a value at the front of the text, before its end or the
first mistake in it. -/
def valueDepth : (fuel : Nat) → Text → Nat
  | 0, _ => 0
  | fuel + 1, text =>
    match text with
    | '[' :: rest =>
      match skipSpace rest with
      | ']' :: _ => 1
      | rest => itemsDepth fuel rest + 1
    | '{' :: rest =>
      match skipSpace rest with
      | '}' :: _ => 1
      | rest => fieldsDepth fuel rest + 1
    | _ => 0

/-- How many levels the reader goes down in the items of a list. -/
def itemsDepth : (fuel : Nat) → Text → Nat
  | 0, _ => 0
  | fuel + 1, text =>
    let later := match readValue fuel text with
      | some (_, rest) =>
        match skipSpace rest with
        | ',' :: rest => itemsDepth fuel (skipSpace rest)
        | _ => 0
      | none => 0
    max (valueDepth fuel text) later

/-- How many levels the reader goes down in the fields of an object. -/
def fieldsDepth : (fuel : Nat) → Text → Nat
  | 0, _ => 0
  | fuel + 1, text =>
    match text with
    | '"' :: rest =>
      match readString rest with
      | some (_, rest) =>
        match skipSpace rest with
        | ':' :: rest =>
          let later := match readValue fuel (skipSpace rest) with
            | some (_, rest) =>
              match skipSpace rest with
              | ',' :: rest => fieldsDepth fuel (skipSpace rest)
              | _ => 0
            | none => 0
          max (valueDepth fuel (skipSpace rest)) later
        | _ => 0
      | none => 0
    | _ => 0

end

/-- How many levels the reader goes down in a whole text. -/
def depth (text : Text) : Nat :=
  valueDepth (2 * text.length + 2) (skipSpace text)

/-- The text with a stand-in for every half of a pair that it escapes. -/
def withoutHalves : Text → Text
  | [] => []
  | '\\' :: 'u' :: first :: second :: third :: fourth :: rest =>
    let digits := match unit? first second third fourth with
      | some unit =>
        if 0xD800 ≤ unit ∧ unit < 0xE000 then ['f', 'f', 'f', 'd']
        else [first, second, third, fourth]
      | none => [first, second, third, fourth]
    '\\' :: 'u' :: digits ++ withoutHalves rest
  | '\\' :: letter :: rest => '\\' :: letter :: withoutHalves rest
  | char :: rest => char :: withoutHalves rest

/-- Whether a text would be JSON if it did not escape half of a pair alone. -/
def escapesHalf (text : Text) : Bool :=
  (read? text).isNone && (read? (withoutHalves text)).isSome

/-- How many levels the reader goes down where nothing else is known of it. -/
def standardNesting : Nat := 960

/-- The value that a whole text holds, with at most so many levels of lists and objects. -/
def load (text : Text) (nesting : Nat := standardNesting) : Except Fault Value :=
  if nesting < depth text then .error .outOfRange
  else
    match read? text with
    | some value => .ok value
    | none => .error (if escapesHalf text then .notUtf8 else .notJson)

end Issuebook.Json
