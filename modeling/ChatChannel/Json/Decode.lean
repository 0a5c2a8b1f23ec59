import ChatChannel.Json.Value
import ChatChannel.Number.Shortest
import ChatChannel.Text.Quoted

/-!
# ChatChannel.Json.Decode

Reading JSON values as typed fields and records. A record is given as an object, whose members are
taken one after the other, or as an array, which lists the fields in order.
-/

namespace ChatChannel

open Number

/-- What keeps a value from being read. -/
inductive DecodeError where
  | wrongType (found : Json) (wanted : String)
  | outOfRange (found : Json) (wanted : String)
  | missing (field : String)
  | tooShort (reached : Nat) (record : String) (size : Nat)
  | tooLong (length : Nat)
  | unknownVariant (name : String) (known : List String)

namespace Json

/-- A value as error texts name it. -/
def description : Json → String
  | .null => "null"
  | .bool b => "boolean `" ++ (if b then "true" else "false") ++ "`"
  | .num (.natural n) => "integer `" ++ toString n ++ "`"
  | .num (.negative n) => "integer `-" ++ toString n ++ "`"
  | .num (.real x) => "floating point `" ++ x.text ++ "`"
  | .num .tooLarge => "number"
  | .str s => "string " ++ Text.quoted s
  | .arr _ => "sequence"
  | .obj _ => "map"

end Json

/-- The text of an error. -/
def DecodeError.message : DecodeError → String
  | .wrongType found wanted => "invalid type: " ++ found.description ++ ", expected " ++ wanted
  | .outOfRange found wanted => "invalid value: " ++ found.description ++ ", expected " ++ wanted
  | .missing field => "missing field `" ++ field ++ "`"
  | .tooShort reached record size =>
    s!"invalid length {reached}, expected struct {record} with {size} elements"
  | .tooLong length => s!"invalid length {length}, expected fewer elements in array"
  | .unknownVariant name known =>
    "unknown variant `" ++ name ++ "`, expected one of "
      ++ ", ".intercalate (known.map fun k => "`" ++ k ++ "`")

namespace Json

/-- Reads a string. -/
def asString : Json → Except DecodeError String
  | .str s => .ok s
  | v => .error (.wrongType v "a string")

/-- Reads a file path. -/
def asPath : Json → Except DecodeError String
  | .str s => .ok s
  | v => .error (.wrongType v "path string")

/-- Reads a truth value. -/
def asBool : Json → Except DecodeError Bool
  | .bool b => .ok b
  | v => .error (.wrongType v "a boolean")

/-- Reads a natural number below `2 ^ 64`. -/
def asNatural : Json → Except DecodeError UInt64
  | .num (.natural n) => .ok (UInt64.ofNat n)
  | .num (.negative n) => .error (.outOfRange (.num (.negative n)) "u64")
  | v => .error (.wrongType v "u64")

/-- Reads a number as a 32-bit real, rounding it once. -/
def asReal32 : Json → Except DecodeError Real32
  | .num (.natural n) => .ok (Real32.nearest false n 1)
  | .num (.negative n) => .ok (Real32.nearest true n 1)
  | .num (.real x) =>
    .ok (Real32.nearest x.negative x.magnitude.quotient.1 x.magnitude.quotient.2)
  | .num .tooLarge => .error (.outOfRange (.num .tooLarge) "f32")
  | v => .error (.wrongType v "f32")

/-- Reads null as nothing and any other value by `read`. -/
def asOption {α : Type} (read : Json → Except DecodeError α) : Json → Except DecodeError (Option α)
  | .null => .ok none
  | v => (read v).map some

/-- Reads every item of an array by `read`. -/
def asList {α : Type} (read : Json → Except DecodeError α) : Json → Except DecodeError (List α)
  | .arr items => items.mapM read
  | v => .error (.wrongType v "a sequence")

/-- Reads every member of an object by `read`. -/
def asTable {α : Type} (read : Json → Except DecodeError α) :
    Json → Except DecodeError (List (String × α))
  | .obj members => members.mapM fun m => (read m.2).map fun a => (m.1, a)
  | v => .error (.wrongType v "a map")

end Json

/-- How records of a type are read. A field that is not given keeps its value in `start`, unless
objects must have it (`needed`) or arrays must reach it (`reached`). -/
structure RecordReader (α : Type) where
  /-- The name of the record in error texts. -/
  name : String
  /-- The names of the fields, in the order of arrays. -/
  fields : List String
  needed : List String
  reached : List String
  start : α
  /-- Takes the value of one field; names that are no field change nothing. -/
  put : String → Json → α → Except DecodeError α

namespace RecordReader

variable {α : Type}

/-- Takes named values one after the other. -/
def putAll (r : RecordReader α) (start : α) (members : List (String × Json)) :
    Except DecodeError α :=
  members.foldlM (fun a m => r.put m.1 m.2 a) start

/-- The first field that objects must have and this list of members lacks. -/
def lacking? (r : RecordReader α) (members : List (String × Json)) : Option String :=
  r.fields.find? fun field => r.needed.contains field && !members.any fun m => m.1 = field

/-- The position of the first field that arrays must reach, beyond the first `count` fields. -/
def unreached? (r : RecordReader α) (count : Nat) : Option Nat :=
  ((r.fields.drop count).findIdx? fun field => r.reached.contains field).map (count + ·)

/-- Reads a record. Bad values are reported in the order in which they are met, before missing and
superfluous ones. -/
def read (r : RecordReader α) : Json → Except DecodeError α
  | .obj members =>
    match r.putAll r.start members with
    | .error e => .error e
    | .ok a =>
      match r.lacking? members with
      | some field => .error (.missing field)
      | none => .ok a
  | .arr items =>
    match r.putAll r.start (r.fields.zip items) with
    | .error e => .error e
    | .ok a =>
      match r.unreached? items.length with
      | some i => .error (.tooShort i r.name r.fields.length)
      | none => if r.fields.length < items.length then .error (.tooLong items.length) else .ok a
  | v => .error (.wrongType v ("struct " ++ r.name))

end RecordReader

/-- Reads one of the named values, given by its name, or by an object whose only member has that
name and null for a value. -/
def Json.asVariant {α : Type} (variants : List (String × α)) : Json → Except DecodeError α
  | .str s => find s
  | .obj [(k, v)] =>
    match find k, v with
    | .error e, _ => .error e
    | .ok a, .null => .ok a
    | .ok _, v => .error (.wrongType v "unit")
  | .obj members => .error (.outOfRange (.obj members) "map with a single key")
  | v => .error (.wrongType v "string or map")
where
  /-- The value of this name. -/
  find (name : String) : Except DecodeError α :=
    match variants.find? fun p => p.1 = name with
    | some (_, a) => .ok a
    | none => .error (.unknownVariant name (variants.map (·.1)))

end ChatChannel
