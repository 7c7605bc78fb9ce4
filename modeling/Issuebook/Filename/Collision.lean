import Issuebook.Filename.Rendering

/-!
# Collisions

A name that is taken gets a number before its extension. Among as many numbers as there are
taken names and one more, one is free.
-/

namespace Issuebook.Filename

/-- The last component of a name cut at its last dot, unless the dot comes first. -/
def splitComponent (component : Text) : Text × Text :=
  match Text.cutAtLastChar? '.' component with
  | some (base, extension) =>
    if base.isEmpty then (component, []) else (base, '.' :: extension)
  | none => (component, [])

/-- A name without its extension, and the extension with its dot. -/
def splitExtension (name : Text) : Text × Text :=
  match Text.cutAtLastChar? '/' name with
  | some (directory, component) =>
    let (base, extension) := splitComponent component
    (directory ++ '/' :: base, extension)
  | none => splitComponent name

/-- A name with a number before its extension. -/
def numbered (name : Text) (number : Nat) : Text :=
  let (base, extension) := splitExtension name
  base ++ '-' :: Text.ofNat number ++ extension

/-- The first free numbered name from a number on; `budget` bounds the search. -/
def freeFrom (name : Text) (taken : List Text) (number : Nat) : (budget : Nat) → Text
  | 0 => numbered name number
  | budget + 1 =>
    if numbered name number ∈ taken then freeFrom name taken (number + 1) budget
    else numbered name number

/-- The name itself when it is free, or else with the least number that makes it free. -/
def resolveCollision (name : Text) (taken : List Text) : Text :=
  if name ∈ taken then freeFrom name taken 1 taken.length else name

/-- The name that a pattern gives an issue beside taken names. -/
def apply (today : Date) (pattern : Text) (issue : Issue) (taken : List Text) :
    Except Fault Text :=
  (Pattern.read pattern).map fun pieces => resolveCollision (fit today issue pieces) taken

end Issuebook.Filename
