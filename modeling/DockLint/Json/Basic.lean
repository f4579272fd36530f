import DockLint.Decimal.Double

/-!
# JSON values

An object is a list of members. `Json.ofMembers` brings members into ascending order of their keys
and keeps the last of those with one key; the reader yields objects in that form only.
-/

namespace DockLint

/-- A number is whole in the range of 64-bit words, signed or unsigned, or else a double. -/
inductive Json.Number where
  | natural (n : Nat)
  /-- The number `-n`, for positive `n`. -/
  | negative (n : Nat)
  | double (d : Decimal.Double)
  deriving DecidableEq, Repr

inductive Json where
  | null
  | bool (b : Bool)
  | num (n : Json.Number)
  | str (s : String)
  | arr (elements : List Json)
  | obj (members : List (String × Json))
  deriving Repr, Inhabited

namespace Json

/-- Adds a member to members in ascending order, in place of one with the same key. -/
def insertMember (key : String) (value : Json) : List (String × Json) → List (String × Json)
  | [] => [(key, value)]
  | (k, v) :: rest =>
    if key = k then (key, value) :: rest
    else if key < k then (key, value) :: (k, v) :: rest
    else (k, v) :: insertMember key value rest

def normalize (members : List (String × Json)) : List (String × Json) :=
  members.foldl (fun acc m => insertMember m.1 m.2 acc) []

def ofMembers (members : List (String × Json)) : Json :=
  obj (normalize members)

end Json

end DockLint
