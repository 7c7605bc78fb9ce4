import Issuebook.Shell.Word

/-!
# Calculations

Whole numbers of 64 bits, the usual operators with their usual precedence, and variables that
a calculation may set. A calculation is read into an expression before it is worked out.
-/

namespace Issuebook.Shell

/-- An operator between two numbers. -/
inductive Operator where
  /-- The product. -/
  | times
  /-- The quotient toward zero. -/
  | divided
  /-- What the division leaves. -/
  | remainder
  /-- The sum. -/
  | plus
  /-- The difference. -/
  | minus
  /-- Bits moved to the left. -/
  | shiftLeft
  /-- Bits moved to the right. -/
  | shiftRight
  /-- Below. -/
  | less
  /-- Below or equal. -/
  | atMost
  /-- Above. -/
  | greater
  /-- Above or equal. -/
  | atLeast
  /-- Equal. -/
  | equal
  /-- Not equal. -/
  | different
  /-- The bits of both. -/
  | bitAnd
  /-- The bits of one only. -/
  | bitXor
  /-- The bits of either. -/
  | bitOr
  /-- Both are other than zero. -/
  | logicalAnd
  /-- One is other than zero. -/
  | logicalOr
  deriving Repr, DecidableEq, Inhabited

/-- An operator on one number. -/
inductive Prefix where
  /-- The number itself. -/
  | positive
  /-- Its negative. -/
  | negative
  /-- Zero becomes one, and everything else zero. -/
  | opposite
  /-- Its bits turned over. -/
  | bitNot
  deriving Repr, DecidableEq, Inhabited

/-- A calculation. -/
inductive Expression where
  /-- A number. -/
  | number (value : Int)
  /-- The value of a variable. -/
  | named (name : Text)
  /-- An operator on one number. -/
  | applied (operator : Prefix) (operand : Expression)
  /-- An operator between two numbers. -/
  | combined (operator : Operator) (left right : Expression)
  /-- One of two numbers. -/
  | either (condition first second : Expression)
  /-- A variable gets a number, or the result of an operator on its value and the number. -/
  | assigned (name : Text) (operator : Option Operator) (value : Expression)
  deriving Repr, Inhabited

/-- Why a calculation has no result. -/
inductive CalculationFault where
  /-- A number is expected. -/
  | noPrimary
  /-- Something is left behind the calculation. -/
  | notFinished
  /-- A parenthesis is not closed. -/
  | notClosed
  /-- A colon is expected. -/
  | noColon
  /-- Zero divides nothing. -/
  | byZero
  /-- The value of a variable is no number. -/
  | illegalNumber (written : Text)
  /-- A variable keeps its value. -/
  | fixedVariable (name : Text)
  deriving Repr, DecidableEq, Inhabited

namespace Arithmetic

/-- The whole number of 64 bits that another one becomes. -/
def wrap (number : Int) : Int :=
  Int.bmod number 18446744073709551616

/-- The bits of a number, as one that is not negative. -/
def bits (number : Int) : Nat :=
  (number % 18446744073709551616).toNat

/-- The number for a truth value. -/
def ofBool (truth : Bool) : Int :=
  if truth then 1 else 0

/-- The result of an operator, none for a division by zero. -/
def combine? (operator : Operator) (left right : Int) : Option Int :=
  match operator with
  | .times => some (wrap (left * right))
  | .divided => if right = 0 then none else some (wrap (left.tdiv right))
  | .remainder => if right = 0 then none else some (wrap (left.tmod right))
  | .plus => some (wrap (left + right))
  | .minus => some (wrap (left - right))
  | .shiftLeft => some (wrap (bits left <<< (bits right % 64) : Nat))
  | .shiftRight => some (left >>> (bits right % 64))
  | .less => some (ofBool (left < right))
  | .atMost => some (ofBool (left ≤ right))
  | .greater => some (ofBool (right < left))
  | .atLeast => some (ofBool (right ≤ left))
  | .equal => some (ofBool (left = right))
  | .different => some (ofBool (left ≠ right))
  | .bitAnd => some (wrap (bits left &&& bits right : Nat))
  | .bitXor => some (wrap (bits left ^^^ bits right : Nat))
  | .bitOr => some (wrap (bits left ||| bits right : Nat))
  | .logicalAnd => some (ofBool (left ≠ 0 && right ≠ 0))
  | .logicalOr => some (ofBool (left ≠ 0 || right ≠ 0))

/-- The result of an operator on one number. -/
def applyPrefix (operator : Prefix) (number : Int) : Int :=
  match operator with
  | .positive => number
  | .negative => wrap (-number)
  | .opposite => ofBool (number = 0)
  | .bitNot => wrap (-number - 1)

/-- The operators with their signs, a longer sign before its beginnings, and the strength with
which they bind. -/
def operators : List (Text × Operator × Nat) :=
  [("<<", .shiftLeft, 8), (">>", .shiftRight, 8), ("<=", .atMost, 7), (">=", .atLeast, 7),
   ("==", .equal, 6), ("!=", .different, 6), ("&&", .logicalAnd, 2), ("||", .logicalOr, 1),
   ("*", .times, 10), ("/", .divided, 10), ("%", .remainder, 10), ("+", .plus, 9),
   ("-", .minus, 9), ("<", .less, 7), (">", .greater, 7), ("&", .bitAnd, 5), ("^", .bitXor, 4),
   ("|", .bitOr, 3)]

/-- The operators on one number with their signs. -/
def prefixes : List (Char × Prefix) :=
  [('+', .positive), ('-', .negative), ('!', .opposite), ('~', .bitNot)]

/-- Drops white space at the front. -/
def skip (text : Text) : Text :=
  text.dropWhile fun char => char = ' ' || char = '\t' || char = '\n'

/-- The digit of a base that a character stands for. -/
def digit? (base : Nat) (char : Char) : Option Nat :=
  let value :=
    if char.isDigit then some (char.toNat - '0'.toNat)
    else if 'a' ≤ char ∧ char ≤ 'f' then some (char.toNat - 'a'.toNat + 10)
    else if 'A' ≤ char ∧ char ≤ 'F' then some (char.toNat - 'A'.toNat + 10)
    else none
  value.filter fun value => value < base

/-- The number that the digits of a base at the front write, and the rest. -/
def takeDigits (base : Nat) (text : Text) : Nat × Text :=
  let digits := text.takeWhile fun char => (digit? base char).isSome
  (digits.foldl (fun sum char => base * sum + (digit? base char).getD 0) 0,
    text.drop digits.length)

/-- The greatest number of 64 bits. -/
def greatest : Nat := 9223372036854775807

/-- A number that has no more than 64 bits: a larger one is the greatest. -/
def bounded (number : Nat) : Int :=
  if greatest < number then greatest else number

/-- The number at the front of a text in base sixteen, eight or ten, and the rest. -/
def takeNumber (text : Text) : Int × Text :=
  let (number, rest) :=
    match text with
    | '0' :: 'x' :: rest | '0' :: 'X' :: rest => takeDigits 16 rest
    | '0' :: rest => takeDigits 8 rest
    | text => takeDigits 10 text
  (bounded number, rest)

/-- What is read of a calculation, and the text behind it. -/
abbrev Read := Except CalculationFault (Expression × Text)

/-- The operator of at least some strength at the front, with its strength and the rest. An
operator with an equals sign behind it sets a variable and is not meant. -/
def takeOperator? (least : Nat) (text : Text) : Option (Operator × Nat × Text) :=
  operators.findSome? fun (sign, operator, strength) =>
    match Text.dropHead? sign text with
    | none => none
    | some rest =>
      if strength < least then none
      else if sign.length = 1 ∧ (rest.head? = sign.head? ∧ ['&', '|', '<', '>'].contains
          (sign.headD ' ')) then none
      else some (operator, strength, rest)

/-- The sign at the front that sets a variable, with its operator and the rest. -/
def takeAssignment? (text : Text) : Option (Option Operator × Text) :=
  match text with
  | '=' :: '=' :: _ => none
  | '=' :: rest => some (none, rest)
  | text =>
    operators.findSome? fun (sign, operator, _) =>
      if ['<', '>', '=', '!'].contains (sign.getLastD ' ') ∧ sign.length = 1 then none
      else if sign.getLast? = some '=' ∨ operator = .logicalAnd ∨ operator = .logicalOr then none
      else
        match Text.dropHead? (sign ++ ['=']) text with
        | some rest => some (some operator, rest)
        | none => none

mutual

/-- Reads a whole calculation. -/
def readAll : (fuel : Nat) → Text → Read
  | 0, _ => .error .noPrimary
  | fuel + 1, text =>
    let text := skip text
    let name := text.takeWhile isNameChar
    match if isName name then takeAssignment? (skip (text.drop name.length)) else none with
    | some (operator, rest) => do
      let (value, rest) ← readAll fuel rest
      pure (.assigned name operator value, rest)
    | none => do
      let (condition, rest) ← readBinary fuel 1 text
      match skip rest with
      | '?' :: rest =>
        let (first, rest) ← readAll fuel rest
        match skip rest with
        | ':' :: rest =>
          let (second, rest) ← readAll fuel rest
          pure (.either condition first second, rest)
        | _ => .error .noColon
      | rest => pure (condition, rest)

/-- Reads operators of at least some strength with their numbers. -/
def readBinary : (fuel : Nat) → (least : Nat) → Text → Read
  | 0, _, _ => .error .noPrimary
  | fuel + 1, least, text => do
    let (left, rest) ← readPrimary fuel text
    readBinaryFrom fuel least left rest

/-- Reads the operators behind a number. -/
def readBinaryFrom : (fuel : Nat) → (least : Nat) → Expression → Text → Read
  | 0, _, left, text => .ok (left, text)
  | fuel + 1, least, left, text =>
    match takeOperator? least (skip text) with
    | none => .ok (left, skip text)
    | some (operator, strength, rest) => do
      let (right, rest) ← readBinary fuel (strength + 1) rest
      readBinaryFrom fuel least (.combined operator left right) rest

/-- Reads a number, a variable, or either with an operator in front. -/
def readPrimary : (fuel : Nat) → Text → Read
  | 0, _ => .error .noPrimary
  | fuel + 1, text =>
    match skip text with
    | [] => .error .noPrimary
    | '(' :: rest => do
      let (inner, rest) ← readAll fuel rest
      match skip rest with
      | ')' :: rest => pure (inner, rest)
      | _ => .error .notClosed
    | char :: rest =>
      match prefixes.lookup char with
      | some operator => do
        let (operand, rest) ← readPrimary fuel rest
        pure (.applied operator operand, rest)
      | none =>
        if char.isDigit then
          let (number, rest) := takeNumber (char :: rest)
          .ok (.number number, rest)
        else if isNameStart char then
          .ok (.named ((char :: rest).takeWhile isNameChar),
            (char :: rest).dropWhile isNameChar)
        else .error .noPrimary

end

/-- The expression of a calculation. -/
def read (text : Text) : Except CalculationFault Expression :=
  (readAll (4 * text.length + 8) text).bind fun (expression, rest) =>
    if (skip rest).isEmpty then .ok expression else .error .notFinished

/-- The number that the value of a variable writes. -/
def numberOf? (written : Text) : Option Int :=
  let text := skip written
  let (isNegative, text) :=
    match text with
    | '-' :: rest => (true, rest)
    | '+' :: rest => (false, rest)
    | text => (false, text)
  let (number, rest) := takeNumber text
  if text.head?.any Char.isDigit ∧ (skip rest).isEmpty then
    some (if isNegative then -number else number)
  else none

/-- The result of a calculation among variables, with what it makes of them. `get?` and `set?`
read and write a variable, if it can be written. -/
def evaluate {Store : Type} (get? : Store → Text → Option Text)
    (set? : Store → Text → Text → Option Store) :
    Expression → Store → Except CalculationFault (Int × Store)
  | .number value, store => .ok (value, store)
  | .named name, store =>
    match get? store name with
    | none => .ok (0, store)
    | some written =>
      if (skip written).isEmpty then .ok (0, store)
      else
        match numberOf? written with
        | some number => .ok (number, store)
        | none => .error (.illegalNumber written)
  | .applied operator operand, store => do
    let (number, store) ← evaluate get? set? operand store
    pure (applyPrefix operator number, store)
  | .combined operator left right, store => do
    let (first, store) ← evaluate get? set? left store
    if operator = .logicalAnd ∧ first = 0 then pure (0, store)
    else if operator = .logicalOr ∧ first ≠ 0 then pure (1, store)
    else
      let (second, store) ← evaluate get? set? right store
      match combine? operator first second with
      | some result => pure (result, store)
      | none => .error .byZero
  | .either condition first second, store => do
    let (number, store) ← evaluate get? set? condition store
    if number ≠ 0 then evaluate get? set? first store
    else evaluate get? set? second store
  | .assigned name operator value, store => do
    let (number, store) ← evaluate get? set? value store
    let before ←
      match operator with
      | none => pure 0
      | some _ =>
        match get? store name with
        | none => pure 0
        | some written =>
          match numberOf? written with
          | some before => pure before
          | none => .error (.illegalNumber written)
    let result ←
      match operator with
      | none => pure number
      | some operator =>
        match combine? operator before number with
        | some result => pure result
        | none => .error .byZero
    match set? store name (Text.ofInt result) with
    | some store => pure (result, store)
    | none => .error (.fixedVariable name)

end Arithmetic

end Issuebook.Shell
