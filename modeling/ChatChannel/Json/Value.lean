import ChatChannel.Number.Binary

/-!
# ChatChannel.Json.Value

JSON values. A number is kept as an integer when it is written as one and fits 64 bits, and is a
64-bit real otherwise. An object keeps its members in the order of the text, repeated keys
included; `canonical` gives the value that a reader of members by name sees.
-/

namespace ChatChannel

open Number

/-- A JSON number. `natural` is below `2 ^ 64`, `negative n` is `-n` with `1 ≤ n ≤ 2 ^ 63`, and
`tooLarge` is a literal beyond the range of 64-bit reals. -/
inductive JsonNumber where
  | natural (n : Nat)
  | negative (n : Nat)
  | real (x : Real64)
  | tooLarge
  deriving DecidableEq, Repr

/-- A JSON value. -/
inductive Json where
  | null
  | bool (b : Bool)
  | num (n : JsonNumber)
  | str (s : String)
  | arr (items : List Json)
  | obj (members : List (String × Json))

namespace Json

/-- The member of this name in a list of members; of repeated ones the last counts. -/
def lookup (key : String) : List (String × Json) → Option Json
  | [] => none
  | (k, v) :: rest =>
    match lookup key rest with
    | some w => some w
    | none => if k = key then some v else none

/-- The member of this name, if the value is an object that has it. -/
def get? (key : String) : Json → Option Json
  | .obj members => lookup key members
  | _ => none

/-- Adds a member to a list sorted by key, unless the key is there already. -/
def insertMember (m : String × Json) : List (String × Json) → List (String × Json)
  | [] => [m]
  | n :: rest =>
    if m.1 = n.1 then n :: rest
    else if m.1 < n.1 then m :: n :: rest
    else n :: insertMember m rest

mutual

/-- The value with the members of every object sorted by key, and of repeated keys the last one
kept. -/
def canonical : Json → Json
  | .arr items => .arr (canonicalItems items)
  | .obj members => .obj (canonicalMembers members)
  | v => v

/-- Every item in canonical form. -/
def canonicalItems : List Json → List Json
  | [] => []
  | v :: rest => canonical v :: canonicalItems rest

/-- The members sorted by key; a later member of the same key wins. -/
def canonicalMembers : List (String × Json) → List (String × Json)
  | [] => []
  | (k, v) :: rest => insertMember (k, canonical v) (canonicalMembers rest)

end

mutual

/-- No number in the value is beyond the range of 64-bit reals. -/
def inRange : Json → Bool
  | .num .tooLarge => false
  | .arr items => inRangeItems items
  | .obj members => inRangeMembers members
  | _ => true

/-- Every item is in range. -/
def inRangeItems : List Json → Bool
  | [] => true
  | v :: rest => inRange v && inRangeItems rest

/-- The value of every member is in range. -/
def inRangeMembers : List (String × Json) → Bool
  | [] => true
  | (_, v) :: rest => inRange v && inRangeMembers rest

end

end Json

end ChatChannel
