import Issuebook.Issue.Intake

/-!
# Flat values

The leaves of nested records under dotted paths, how two records differ in them, and the
merge of one record into another. Issues count as records here, and lists as leaves.
-/

namespace Issuebook

namespace Value

mutual

/-- The value with every issue outside of lists replaced by its record. -/
def plain : Value → Value
  | .issue value => .record value.toRecord
  | .record fields => .record (plainFields fields)
  | value => value

/-- The fields with every issue outside of lists replaced by its record. -/
def plainFields : Entries Value → Entries Value
  | [] => []
  | (key, value) :: rest => (key, plain value) :: plainFields rest

end

/-- A path extended by a name. -/
def pathTo (above name : Text) : Text :=
  if above.isEmpty then name else above ++ '.' :: name

/-- A value without fields at its path; at the top it has none. -/
def leafAt (above : Text) (value : Value) : List (Text × Value) :=
  if above.isEmpty then [] else [(above, value)]

mutual

/-- The leaves of a plain value under their paths, in order. -/
def leaves (above : Text) : Value → List (Text × Value)
  | .record [] => leafAt above (.record [])
  | .record (field :: fields) => fieldLeaves above (field :: fields)
  | value => leafAt above value

/-- The leaves of the fields of a record under their paths, in order. -/
def fieldLeaves (above : Text) : List (Text × Value) → List (Text × Value)
  | [] => []
  | (name, value) :: rest => leaves (pathTo above name) value ++ fieldLeaves above rest

end

/-- The leaves of a value under dotted paths. An empty record is a leaf. -/
def flat (value : Value) : Entries Value :=
  Entries.ofList (leaves [] (plain value))

end Value

/-- How one nested record differs from another, leaf by leaf. -/
structure Difference where
  /-- The leaves that only the later record has. -/
  added : Entries Value
  /-- The leaves that both have with different values, the earlier one first. -/
  modified : Entries (Value × Value)
  /-- The leaves that only the earlier record has. -/
  removed : Entries Value

namespace Difference

/-- The leaves of `one` that `other` has not. -/
def missingIn (other one : Entries Value) : Entries Value :=
  one.filter fun (path, _) => !other.has path

/-- The leaves of two flat records that have different values. -/
def changed (old new : Entries Value) : Entries (Value × Value) :=
  old.filterMap fun (path, before) =>
    match new.get? path with
    | some after => if before.same after then none else some (path, before, after)
    | none => none

/-- How `after` differs from `before`. -/
def between (before after : Value) : Difference :=
  let old := before.flat
  let new := after.flat
  ⟨missingIn old new, changed old new, missingIn new old⟩

/-- Whether there is any difference. -/
def hasChanges (difference : Difference) : Bool :=
  !(difference.added.isEmpty && difference.modified.isEmpty && difference.removed.isEmpty)

end Difference

namespace Value

mutual

/-- A value under a key of a record: records merge, and anything else gives way to it. -/
def mergeValue (current : Option Value) : Value → Value
  | .record updates =>
    match current with
    | some (.record fields) => .record (mergeFields fields updates)
    | _ => .record updates
  | value => value

/-- The fields with updates merged in, in order. -/
def mergeFields (fields : Entries Value) : List (Text × Value) → Entries Value
  | [] => fields
  | (key, value) :: rest =>
    mergeFields (Entries.put key (mergeValue (Entries.get? key fields) value) fields) rest

end

/-- The fields of `base` with `updates` merged in. Paths that the updates do not name keep
their values. -/
def merged (base : Value) (updates : Entries Value) : Entries Value :=
  mergeFields base.plain.fields (plainFields updates)

end Value

end Issuebook
