import Issuebook.Text.Basic

/-!
# Entries

An ordered dictionary with text keys: a list of pairs in order of first insertion. Writing
to a key that is present keeps its place.
-/

namespace Issuebook

/-- Values under text keys, in order of first insertion. -/
abbrev Entries (α : Type) := List (Text × α)

namespace Entries

variable {α : Type}

/-- The value under a key. -/
def get? (key : Text) : Entries α → Option α
  | [] => none
  | (name, value) :: rest => if name = key then some value else get? key rest

/-- Whether a key is present. -/
def has (key : Text) (entries : Entries α) : Bool :=
  (get? key entries).isSome

/-- Writes a value under a key: in the place of the key, or at the end when it is new. -/
def put (key : Text) (value : α) : Entries α → Entries α
  | [] => [(key, value)]
  | (name, old) :: rest =>
    if name = key then (name, value) :: rest else (name, old) :: put key value rest

/-- Removes a key. -/
def erase (key : Text) (entries : Entries α) : Entries α :=
  entries.filter fun (name, _) => name ≠ key

/-- The keys in order. -/
def keys (entries : Entries α) : List Text :=
  entries.map Prod.fst

/-- Writes every entry of `later` in order. -/
def putAll (entries later : Entries α) : Entries α :=
  later.foldl (fun entries (key, value) => put key value entries) entries

/-- The dictionary of a list of pairs; of repeated keys the last value counts. -/
def ofList (pairs : List (Text × α)) : Entries α :=
  putAll [] pairs

end Entries

end Issuebook
