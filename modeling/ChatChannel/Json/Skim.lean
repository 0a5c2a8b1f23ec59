import ChatChannel.Json.Reader

/-!
# ChatChannel.Json.Skim

Reading bytes for the sake of some members of one object, or of the items of one array. The other
members of the object are passed over: their values must have the form of values, but strings in
them may hold any bytes above the control characters and any escaped surrogates, and they may be
nested to any depth.

A text is passed over as octets, and what is to be read is cut out of it, decoded and read by the
strict grammar.
-/

namespace ChatChannel.Json

open Text

variable {α : Type}

/-! ## Passing over -/

/-- What follows a string after its opening quote. -/
def stringEnd : List Char → Option (List Char)
  | [] => none
  | '"' :: rest => some rest
  | '\\' :: 'u' :: a :: b :: c :: d :: rest =>
    if (hexWord a b c d).isSome then stringEnd rest else none
  | '\\' :: e :: rest => if (shortEscape e).isSome then stringEnd rest else none
  | c :: rest => if c.toNat < 0x20 then none else stringEnd rest

/-- What follows a string with its quotes. -/
def quotedEnd : List Char → Option (List Char)
  | '"' :: rest => stringEnd rest
  | _ => none

/-- Cuts out the text that is passed over, without the blanks before it. -/
def cut (pass : List Char → Option (List Char)) (cs : List Char) :
    Option (List Char × List Char) :=
  (pass (skipSpace cs)).map fun rest =>
    ((skipSpace cs).take ((skipSpace cs).length - rest.length), rest)

/-- Cuts out a key and a value, with a colon between them. -/
def cutMember (value : List Char → Option (List Char)) (cs : List Char) :
    Option ((List Char × List Char) × List Char) := do
  let (key, rest) ← cut quotedEnd cs
  match skipSpace rest with
  | ':' :: rest => do
    let (text, rest) ← cut value rest
    some ((key, text), rest)
  | _ => none

/-- Goes through entries with commas between them up to the closing bracket; `entry` takes one
entry and `fuel` bounds their number. -/
def cutEntries (close : Char) (entry : List Char → Option (α × List Char)) :
    Nat → List Char → Option (List α × List Char)
  | 0, _ => none
  | fuel + 1, cs => do
    let (a, rest) ← entry cs
    match skipSpace rest with
    | [] => none
    | c :: rest =>
      if c = close then some ([a], rest)
      else if c = ',' then do
        let (as, rest) ← cutEntries close entry fuel rest
        some (a :: as, rest)
      else none

/-- Goes through an array or an object after its opening bracket. -/
def cutGroup (close : Char) (entry : List Char → Option (α × List Char)) (cs : List Char) :
    Option (List α × List Char) :=
  match skipSpace cs with
  | [] => none
  | c :: rest => if c = close then some ([], rest) else cutEntries close entry cs.length cs

/-- What follows a value at the start of a text that has fewer than `depth` levels of arrays and
objects. -/
def valueEnd : Nat → List Char → Option (List Char)
  | 0, _ => none
  | depth + 1, cs =>
    match cs with
    | 'n' :: 'u' :: 'l' :: 'l' :: rest => some rest
    | 't' :: 'r' :: 'u' :: 'e' :: rest => some rest
    | 'f' :: 'a' :: 'l' :: 's' :: 'e' :: rest => some rest
    | '"' :: rest => stringEnd rest
    | '[' :: rest => (cutGroup ']' (cut (valueEnd depth)) rest).map (·.2)
    | '{' :: rest => (cutGroup '}' (cutMember (valueEnd depth)) rest).map (·.2)
    | cs => (readNumeral cs).map (·.2)

/-! ## Reading -/

/-- Reads octets that are the encoding of a text. -/
def readOctets (cs : List Char) : Option Json :=
  (decode? (ofOctets cs)).bind read

/-- Reads the members of these names. The keys of the others must be strings, too. -/
def readSome (fields : List String) : List (List Char × List Char) → Option (List (String × Json))
  | [] => some []
  | (key, text) :: rest =>
    match readOctets key with
    | some (.str name) =>
      if fields.contains name then do
        let v ← readOctets text
        let given ← readSome fields rest
        some ((name, v) :: given)
      else readSome fields rest
    | _ => none

/-- Reads an array, or of an object the members of these names. -/
def skim (fields : List String) (bytes : ByteArray) : Option Json :=
  let cs := octets bytes
  match skipSpace cs with
  | '[' :: rest => do
    let (items, rest) ← cutGroup ']' (cut (valueEnd cs.length)) rest
    if skipSpace rest = [] then (items.mapM readOctets).map .arr else none
  | '{' :: rest => do
    let (members, rest) ← cutGroup '}' (cutMember (valueEnd cs.length)) rest
    if skipSpace rest = [] then (readSome fields members).map .obj else none
  | _ => none

end ChatChannel.Json
