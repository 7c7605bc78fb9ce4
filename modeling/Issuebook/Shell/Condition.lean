import Issuebook.Disk.Changes
import Issuebook.Shell.Program

/-!
# Conditions

A condition is a row of words: texts and files that are tested, put together by negation,
conjunction, disjunction and parentheses. Whether a word is a sign or a text depends on the
words behind it.
-/

namespace Issuebook.Shell

/-- What is wrong with a condition. -/
inductive ConditionFault where
  /-- A word is no number. -/
  | illegalNumber (word : Text)
  /-- A word has none behind it. -/
  | nothingAfter (word : Text)
  /-- A word stands where an operator is expected. -/
  | unexpected (word : Text)
  /-- A parenthesis is not closed. -/
  | notClosed
  deriving Repr, DecidableEq, Inhabited

/-- What the shell says about a condition. -/
def ConditionFault.message : ConditionFault → Text
  | .illegalNumber word => ("Illegal number: " : Text) ++ word
  | .nothingAfter word => word ++ (": argument expected" : Text)
  | .unexpected word => word ++ (": unexpected operator" : Text)
  | .notClosed => "closing paren expected"

/-- A sign of a condition. -/
inductive ConditionSign where
  /-- A test of the next word. -/
  | unary (letter : Char)
  /-- A test of the words on both sides. -/
  | binary (relation : Text)
  /-- Both hold. -/
  | conjunction
  /-- One holds. -/
  | disjunction
  /-- It does not hold. -/
  | negation
  /-- An opening parenthesis. -/
  | opening
  /-- A closing parenthesis. -/
  | closing
  deriving Repr, DecidableEq, Inhabited

namespace Condition

/-- The letters of tests of one word. -/
def unaryLetters : List Char :=
  ['r', 'w', 'x', 'f', 'd', 'c', 'b', 'p', 'u', 'g', 'k', 's', 't', 'z', 'n', 'h', 'L', 'O', 'G',
   'S', 'e']

/-- The tests of two words. -/
def relations : List Text :=
  ["=", "!=", "<", ">", "-eq", "-ne", "-gt", "-ge", "-lt", "-le", "-nt", "-ot", "-ef"]

/-- The sign that a word can be. -/
def sign? (word : Text) : Option ConditionSign :=
  match word with
  | ['!'] => some .negation
  | ['('] => some .opening
  | [')'] => some .closing
  | ['-', 'a'] => some .conjunction
  | ['-', 'o'] => some .disjunction
  | word =>
    if relations.contains word then some (.binary word)
    else
      match word with
      | ['-', letter] => if unaryLetters.contains letter then some (.unary letter) else none
      | _ => none

/-- Whether the word at the front is a text because of the words behind it. -/
def isOperand : List Text → Bool
  | [_] => true
  | [_, _] => false
  | _ :: next :: _ => relations.contains next
  | [] => true

/-- The sign at the front, none for a text or at the end. -/
def front? (words : List Text) : Option ConditionSign :=
  match words with
  | [] => none
  | word :: rest =>
    match sign? word with
    | some (.unary letter) => if isOperand words then none else some (.unary letter)
    | some .opening => if rest.isEmpty then none else some .opening
    | found => found

/-- The number that a word writes, or the fault that it writes none. -/
def number (word : Text) : Except ConditionFault Int :=
  let isSpace (char : Char) : Bool := char = ' ' || ('\t' ≤ char && char ≤ '\x0d')
  let text := word.dropWhile isSpace
  let (isNegative, text) :=
    match text with
    | '-' :: rest => (true, rest)
    | '+' :: rest => (false, rest)
    | text => (false, text)
  let digits := text.takeWhile Char.isDigit
  let value := digits.foldl (fun sum char => 10 * sum + (char.toNat - '0'.toNat)) 0
  if digits.isEmpty ∨ !(text.drop digits.length).all isSpace ∨ 9223372036854775807 < value then
    .error (.illegalNumber word)
  else .ok (if isNegative then -(value : Int) else value)

/-- Whether a test of one word holds. -/
def holdsOne (context : Context) (letter : Char) (word : Text) : Except ConditionFault Bool :=
  let found (follows : Bool) : Option (Place × Node) :=
    match context.disk.walk (context.path word) follows with
    | .ok (.there place node) => if word.isEmpty then none else some (place, node)
    | _ => none
  match letter with
  | 'n' => .ok !word.isEmpty
  | 'z' => .ok word.isEmpty
  | 't' => (number word).map fun _ => false
  | 'h' | 'L' =>
    .ok ((found false).any fun (_, node) =>
      match node with
      | .link _ => true
      | _ => false)
  | letter =>
    .ok ((found true).any fun (place, node) =>
      let isDevice := isDevice place
      match letter, node with
      | 'd', .directory => true
      | 'f', .file _ => !isDevice
      | 'c', .file _ => isDevice
      | 's', .file content => !isDevice && !content.toBytes.isEmpty
      | 's', .directory => true
      | 'x', .file content => content = programContent
      | 'x', .directory => true
      | letter, _ => ['e', 'r', 'w', 'O', 'G'].contains letter)

/-- Whether a test of two words holds. -/
def holdsTwo (context : Context) (relation left right : Text) : Except ConditionFault Bool :=
  let compare (holds : Int → Int → Bool) : Except ConditionFault Bool := do
    pure (holds (← number left) (← number right))
  let place? (word : Text) : Option Place :=
    match context.disk.walk (context.path word) with
    | .ok (.there place _) => some place
    | _ => none
  match String.ofList relation with
  | "=" => .ok (left = right)
  | "!=" => .ok (left ≠ right)
  | "<" => .ok (left ≠ right && Text.le left right)
  | ">" => .ok (left ≠ right && Text.le right left)
  | "-eq" => compare fun left right => left = right
  | "-ne" => compare fun left right => left ≠ right
  | "-gt" => compare fun left right => right < left
  | "-ge" => compare fun left right => right ≤ left
  | "-lt" => compare fun left right => left < right
  | "-le" => compare fun left right => left ≤ right
  | "-ef" => .ok ((place? left).isSome && place? left = place? right)
  | _ => .ok false

/-- What is read of a condition: whether it holds, and the last word of it with those behind. -/
abbrev Reading := Except ConditionFault (Bool × List Text)

mutual

/-- Reads a disjunction. -/
def disjunction (context : Context) : (fuel : Nat) → List Text → Reading
  | 0, words => .ok (false, words)
  | fuel + 1, words => do
    let (first, rest) ← conjunction context fuel words
    if front? rest.tail = some .disjunction then
      let (second, rest) ← disjunction context fuel (rest.drop 2)
      pure (first || second, rest)
    else pure (first, rest)

/-- Reads a conjunction. -/
def conjunction (context : Context) : (fuel : Nat) → List Text → Reading
  | 0, words => .ok (false, words)
  | fuel + 1, words => do
    let (first, rest) ← negation context fuel (front? words) words
    if front? rest.tail = some .conjunction then
      let (second, rest) ← conjunction context fuel (rest.drop 2)
      pure (first && second, rest)
    else pure (first, rest)

/-- Reads a test with its negations. -/
def negation (context : Context) : (fuel : Nat) → Option ConditionSign → List Text → Reading
  | 0, _, words => .ok (false, words)
  | fuel + 1, some .negation, words =>
    if words.tail.isEmpty then .ok (true, words)
    else do
      let (holds, rest) ← negation context fuel (front? words.tail) words.tail
      pure (!holds, rest)
  | fuel + 1, sign, words => primary context fuel sign words

/-- Reads one test. -/
def primary (context : Context) : (fuel : Nat) → Option ConditionSign → List Text → Reading
  | 0, _, words => .ok (false, words)
  | _, _, [] => .ok (false, [])
  | fuel + 1, some .opening, _ :: rest =>
    if front? rest = some .closing then .ok (false, rest)
    else do
      let (holds, rest) ← disjunction context fuel rest
      if front? rest.tail = some .closing then pure (holds, rest.tail)
      else .error .notClosed
  | _, some (.unary letter), word :: rest =>
    match rest with
    | [] => .error (.nothingAfter word)
    | operand :: _ => (holdsOne context letter operand).map fun holds => (holds, rest)
  | _, _, left :: rest =>
    match front? rest, rest with
    | some (.binary relation), _ :: right :: behind =>
      (holdsTwo context relation left right).map fun holds => (holds, right :: behind)
    | some (.binary relation), _ => .error (.nothingAfter relation)
    | _, _ => .ok (!left.isEmpty, left :: rest)

end

/-- Whether the words of a condition hold, read as a whole. -/
def holdsAll (context : Context) (words : List Text) : Except ConditionFault Bool := do
  let (holds, rest) ← disjunction context (8 * words.length + 8) words
  match rest with
  | word :: _ :: _ => .error (.unexpected word)
  | _ => pure holds

/-- Whether three words hold: a test of two words counts first, then parentheses and negation. -/
def holdsThree (context : Context) (left operator right : Text) : Except ConditionFault Bool :=
  match sign? operator with
  | some (.binary relation) => holdsTwo context relation left right
  | _ =>
    if left = ['('] ∧ right = [')'] then holdsAll context [operator]
    else if left = ['!'] then (holdsAll context [operator, right]).map Bool.not
    else holdsAll context [left, operator, right]

/-- Whether the words of a condition hold. -/
def holds (context : Context) : List Text → Except ConditionFault Bool
  | [] => .ok false
  | [left, operator, right] => holdsThree context left operator right
  | [first, second, third, fourth] =>
    if first = ['('] ∧ fourth = [')'] then holdsAll context [second, third]
    else if first = ['!'] then (holdsThree context second third fourth).map Bool.not
    else holdsAll context [first, second, third, fourth]
  | words => holdsAll context words

end Condition

end Issuebook.Shell
