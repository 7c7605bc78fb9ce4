import Issuebook.Entries
import Issuebook.Issue.Basic
import Issuebook.Number.Binary64

/-!
# Values

The data that metadata blocks, JSON texts and template contexts hold. An issue can stand
inside a context as a value of its own.
-/

namespace Issuebook

/-- A piece of data. -/
inductive Value where
  /-- Nothing. -/
  | null
  /-- A truth value. -/
  | bool (value : Bool)
  /-- A whole number of any size. -/
  | int (value : Int)
  /-- A floating-point number. -/
  | float (value : Binary64)
  /-- A text. -/
  | text (value : Text)
  /-- Values in order. -/
  | list (items : List Value)
  /-- Values under names, in order. -/
  | record (fields : List (Text × Value))
  /-- An issue. -/
  | issue (value : Issue)
  deriving Inhabited

namespace Value

/-- The value of an optional text. -/
def ofText? : Option Text → Value
  | some written => .text written
  | none => .null

/-- The list of texts. -/
def ofTexts (texts : List Text) : Value :=
  .list (texts.map .text)

/-- The value of an optional list of texts. -/
def ofTexts? : Option (List Text) → Value
  | some written => ofTexts written
  | none => .null

/-- The fields of a record; other values have none. -/
def fields : Value → Entries Value
  | .record fields => fields
  | _ => []

/-- Equality of a whole number and a floating-point number, by exact value. -/
def sameNumber (whole : Int) (float : Binary64) : Bool :=
  float.toInt? == some whole

mutual

/-- Equality of values. Truth values count as zero and one, numbers compare by value, and
the order of record fields does not matter. -/
def same : Value → Value → Bool
  | .null, .null => true
  | .bool left, .bool right => left == right
  | .bool left, .int right => left.toNat == right
  | .bool left, .float right => sameNumber left.toNat right
  | .int left, .bool right => left == right.toNat
  | .int left, .int right => left == right
  | .int left, .float right => sameNumber left right
  | .float left, .bool right => sameNumber right.toNat left
  | .float left, .int right => sameNumber right left
  | .float left, .float right => left.sameValue right
  | .text left, .text right => left == right
  | .list left, .list right => sameItems left right
  | .record left, .record right => left.length == right.length && sameFields left right
  | .issue left, .issue right => left == right
  | _, _ => false

/-- Equality of lists item by item. -/
def sameItems : List Value → List Value → Bool
  | [], [] => true
  | left :: lefts, right :: rights => same left right && sameItems lefts rights
  | _, _ => false

/-- Every field is in the other record with an equal value. -/
def sameFields : Entries Value → Entries Value → Bool
  | [], _ => true
  | (key, left) :: rest, others =>
    (match Entries.get? key others with
      | some right => same left right
      | none => false) && sameFields rest others

end

end Value

end Issuebook
