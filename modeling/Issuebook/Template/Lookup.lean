import Issuebook.Issue.Intake
import Issuebook.Text.Table
import Issuebook.Value.Member
import Issuebook.Value.Shown

/-!
# Looking up values

The value at a path of names with dots between them: fields of records, fields of issues
under either of their names, items of lists by number, the parts of numbers, and the
classes of plain values with what is known about them and their members. A step that leads
nowhere ends at nothing.
-/

namespace Issuebook

/-- What a path can lead to. -/
inductive Finding where
  /-- A value. -/
  | value (found : Value)
  /-- A class of values. -/
  | kind (known : ValueClass)
  /-- Classes in order. -/
  | kinds (known : List ValueClass)
  /-- A member of a class. -/
  | member (known : ClassMember)
  /-- A member of a class together with the value that it belongs to. -/
  | valueMember (known : ClassMember) (holder : Value) (kind : ValueClass)
  /-- A member of a class together with the class that it belongs to. -/
  | kindMember (known : ClassMember) (holder : ValueClass)
  deriving Inhabited

namespace Finding

/-- A path that leads nowhere. -/
def nothing : Finding := .value .null

/-- The value that stands for what was found: classes and members are given by how they are
written. -/
def toValue : Finding → Value
  | .value found => found
  | .kind found => .text found.toText
  | .kinds found => .list (found.map fun kind => .text kind.toText)
  | .member known => .text known.toText
  | .valueMember known _ within => .text (known.boundText within)
  | .kindMember known _ => .text (known.boundText .type)

/-- The item of a list under the digits of its index. Digits that stand in no decimal number
are a fault. -/
def itemAt? {α : Type} (items : List α) (index : Text) : Except Fault (Option α) :=
  if !index.isEmpty && index.all Text.isAnyDigit then
    match Text.decimalNumber? index with
    | some position => .ok items[position]?
    | none => .error .notDecimal
  else .ok none

/-- The field of an issue under its plain or its written name. -/
def issueField (source : Issue) (name : Text) : Value :=
  match Entries.get? name source.namedFields with
  | some held => held
  | none => (Entries.get? name source.toRecord).getD .null

/-- The parts of a whole number as a fraction and as a number with an imaginary part. -/
def wholeParts (number : Int) : Entries Value :=
  [("real", .int number), ("imag", .int 0), ("numerator", .int number),
   ("denominator", .int 1)]

/-- The parts of a floating-point number as a number with an imaginary part. -/
def floatParts (number : Binary64) : Entries Value :=
  [("real", .float number), ("imag", .float Binary64.zero)]

/-- The parts of a plain value. -/
def parts : Value → Entries Value
  | .bool truth => wholeParts truth.toNat
  | .int number => wholeParts number
  | .float number => floatParts number
  | _ => []

/-- The name under which values and classes have their class. -/
def classKey : Text := "__class__"

/-- The name under which values and classes have their description. -/
def descriptionKey : Text := "__doc__"

/-- The name under which classes and members have their name. -/
def nameKey : Text := "__name__"

/-- The name under which classes and members have their full name. -/
def fullNameKey : Text := "__qualname__"

/-- The name under which members have the class that declares them. -/
def ownerKey : Text := "__objclass__"

/-- The name under which members have what they belong to. -/
def holderKey : Text := "__self__"

/-- A member of a class together with what it belongs to, when it belongs to each member. -/
def memberOf (plain : Value) (kind : ValueClass) (known : ClassMember) : Finding :=
  match known.kind with
  | .operation | .method => .valueMember known plain kind
  | .shared | .free => .kindMember known kind
  | .part => .value ((Entries.get? known.name (parts plain)).getD .null)

/-- A plain value of a class, one step further. -/
def plainStep (plain : Value) (kind : ValueClass) (name : Text) : Finding :=
  if name = classKey then .kind kind
  else if name = descriptionKey then .value (.text kind.description)
  else ((ClassMember.find? kind name).map (memberOf plain kind)).getD nothing

/-- What is known about a class. -/
def classFacts (known : ValueClass) : Entries Finding :=
  [(classKey, .kind .type), (descriptionKey, .value (.text known.description)),
   (nameKey, .value (.text known.name)), (fullNameKey, .value (.text known.name)),
   ("__module__", .value (.text ValueClass.home)),
   ("__base__", (known.base?.map .kind).getD nothing),
   ("__bases__", .kinds known.base?.toList), ("__mro__", .kinds known.lineage)]

/-- A member of a class, looked up in the class itself. -/
def memberIn (kind : ValueClass) (known : ClassMember) : Finding :=
  match known.kind with
  | .shared | .free => .kindMember known kind
  | _ => .member known

/-- A member that classes have as members of the class of classes. -/
def memberOfClass (kind : ValueClass) (known : ClassMember) : Finding :=
  .kindMember known (if known.kind = .shared then .type else kind)

/-- A class, one step further: what is known about it, its members, and its own operations as
a class. -/
def classStep (kind : ValueClass) (name : Text) : Finding :=
  (((classFacts kind).get? name).or
    (((ClassMember.find? kind name).map (memberIn kind)).or
      ((ClassMember.find? .type name).map (memberOfClass kind)))).getD nothing

/-- What is known about a member of a class. -/
def memberFacts (known : ClassMember) : Entries Finding :=
  [(classKey, .kind known.type), (nameKey, .value (.text known.name)),
   (fullNameKey, .value (.text (known.nameIn known.owner))), (ownerKey, .kind known.owner)]

/-- What is known about a member together with its holder, a member of `kind`; `within` is the
class before its full name. -/
def boundFacts (known : ClassMember) (holder : Finding) (within : ValueClass) :
    Entries Finding :=
  let declared := known.kind = .operation
  [(classKey, .kind known.boundType), (nameKey, .value (.text known.name)),
   (fullNameKey, .value (.text (known.nameIn (if declared then known.owner else within)))),
   (holderKey, if known.kind = .free then nothing else holder)] ++
    if declared then [(ownerKey, .kind known.owner)] else []

/-- What is found one step further. -/
def step (found : Finding) (name : Text) : Except Fault Finding :=
  match found with
  | .value (.record fields) => .ok (.value ((Entries.get? name fields).getD .null))
  | .value (.issue source) => .ok (.value (issueField source name))
  | .value (.list items) => (itemAt? items name).map fun item => .value (item.getD .null)
  | .value plain => .ok ((plain.kind?.map fun known => plainStep plain known name).getD nothing)
  | .kind known => .ok (classStep known name)
  | .kinds known => (itemAt? known name).map fun item => (item.map .kind).getD nothing
  | .member known => .ok (((memberFacts known).get? name).getD nothing)
  | .valueMember known holder within =>
    .ok (((boundFacts known (.value holder) within).get? name).getD nothing)
  | .kindMember known holder =>
    .ok (((boundFacts known (.kind holder) holder).get? name).getD nothing)

/-- What is found behind a list of steps. -/
def walk (found : Finding) : List Text → Except Fault Finding
  | [] => .ok found
  | name :: names => do
    let next ← step found name
    walk next names

end Finding

/-- The value at a path. -/
def Value.at? (value : Value) (path : Text) : Except Fault Value :=
  (Finding.walk (.value value) (Text.splitOn '.' path)).map Finding.toValue

end Issuebook
