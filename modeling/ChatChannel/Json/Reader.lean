import ChatChannel.Json.Numeral
import ChatChannel.Text.Hex
import ChatChannel.Text.Utf8

/-!
# ChatChannel.Json.Reader

Reading JSON text by the strict grammar: four blank characters, no raw control characters and no
lone surrogate escapes in strings, and at most 127 levels of nesting. `read` keeps the members of
objects as written; `parse` gives the canonical value and refuses numbers out of range.
-/

namespace ChatChannel.Json

open Text

/-- The blank characters of JSON. -/
def isSpace (c : Char) : Bool :=
  c = ' ' || c = '\t' || c = '\n' || c = '\r'

/-- The text from its first character that is not blank. -/
def skipSpace (cs : List Char) : List Char :=
  cs.dropWhile isSpace

/-- The number written by four hexadecimal digits. -/
def hexWord (a b c d : Char) : Option Nat := do
  let a ← hexValue a
  let b ← hexValue b
  let c ← hexValue c
  let d ← hexValue d
  some (((16 * a + b) * 16 + c) * 16 + d)

/-- The character of a one-letter escape. -/
def shortEscape : Char → Option Char
  | '"' => some '"'
  | '\\' => some '\\'
  | '/' => some '/'
  | 'b' => some '\x08'
  | 'f' => some '\x0C'
  | 'n' => some '\n'
  | 'r' => some '\r'
  | 't' => some '\t'
  | _ => none

/-- What a string goes on with. -/
inductive Piece where
  | close (rest : List Char)
  | char (c : Char) (rest : List Char)

/-- Reads one character of a string, or its closing quote. A high surrogate escape must be followed
by a low one, and both make one character. -/
def readPiece : List Char → Option Piece
  | [] => none
  | '"' :: rest => some (.close rest)
  | '\\' :: 'u' :: a :: b :: c :: d :: rest => do
    let n ← hexWord a b c d
    if 0xD800 ≤ n && n ≤ 0xDBFF then
      match rest with
      | '\\' :: 'u' :: a :: b :: c :: d :: rest =>
        let m ← hexWord a b c d
        if 0xDC00 ≤ m && m ≤ 0xDFFF then
          some (.char (Char.ofNat (0x10000 + (n - 0xD800) * 0x400 + (m - 0xDC00))) rest)
        else none
      | _ => none
    else if 0xDC00 ≤ n && n ≤ 0xDFFF then none
    else some (.char (Char.ofNat n) rest)
  | '\\' :: e :: rest => (shortEscape e).map fun c => .char c rest
  | c :: rest => if c.toNat < 0x20 then none else some (.char c rest)

/-- Reads a string after its opening quote; `fuel` bounds the characters read. -/
def readChars : Nat → List Char → Option (List Char × List Char)
  | 0, _ => none
  | fuel + 1, cs =>
    match readPiece cs with
    | none => none
    | some (.close rest) => some ([], rest)
    | some (.char c rest) =>
      (readChars fuel rest).map fun (text, rest) => (c :: text, rest)

/-- Reads a string after its opening quote. -/
def readString (cs : List Char) : Option (String × List Char) :=
  (readChars (cs.length + 1) cs).map fun (text, rest) => (String.ofList text, rest)

/-- Reads the items of an array after the first one, up to the closing bracket; `item` reads one
item and `fuel` bounds their number. -/
def readItems (item : List Char → Option (Json × List Char)) :
    Nat → List Char → Option (List Json × List Char)
  | 0, _ => none
  | fuel + 1, cs =>
    match skipSpace cs with
    | ']' :: rest => some ([], rest)
    | ',' :: rest => do
      let (v, rest) ← item rest
      let (vs, rest) ← readItems item fuel rest
      some (v :: vs, rest)
    | _ => none

/-- Reads an array after its opening bracket. -/
def readArray (item : List Char → Option (Json × List Char)) (cs : List Char) :
    Option (Json × List Char) :=
  match skipSpace cs with
  | ']' :: rest => some (.arr [], rest)
  | _ => do
    let (v, rest) ← item cs
    let (vs, rest) ← readItems item (rest.length + 1) rest
    some (.arr (v :: vs), rest)

/-- Reads a key, a colon and a value. -/
def readMember (item : List Char → Option (Json × List Char)) (cs : List Char) :
    Option ((String × Json) × List Char) :=
  match skipSpace cs with
  | '"' :: rest => do
    let (key, rest) ← readString rest
    match skipSpace rest with
    | ':' :: rest => do
      let (v, rest) ← item rest
      some ((key, v), rest)
    | _ => none
  | _ => none

/-- Reads the members of an object after the first one, up to the closing brace. -/
def readMembers (item : List Char → Option (Json × List Char)) :
    Nat → List Char → Option (List (String × Json) × List Char)
  | 0, _ => none
  | fuel + 1, cs =>
    match skipSpace cs with
    | '}' :: rest => some ([], rest)
    | ',' :: rest => do
      let (m, rest) ← readMember item rest
      let (ms, rest) ← readMembers item fuel rest
      some (m :: ms, rest)
    | _ => none

/-- Reads an object after its opening brace. -/
def readObject (item : List Char → Option (Json × List Char)) (cs : List Char) :
    Option (Json × List Char) :=
  match skipSpace cs with
  | '}' :: rest => some (.obj [], rest)
  | _ => do
    let (m, rest) ← readMember item cs
    let (ms, rest) ← readMembers item (rest.length + 1) rest
    some (.obj (m :: ms), rest)

/-- Reads a value that has at most `depth` levels of arrays and objects. -/
def readValue (depth : Nat) (cs : List Char) : Option (Json × List Char) :=
  match skipSpace cs with
  | 'n' :: 'u' :: 'l' :: 'l' :: rest => some (.null, rest)
  | 't' :: 'r' :: 'u' :: 'e' :: rest => some (.bool true, rest)
  | 'f' :: 'a' :: 'l' :: 's' :: 'e' :: rest => some (.bool false, rest)
  | '"' :: rest => (readString rest).map fun (s, rest) => (.str s, rest)
  | '[' :: rest =>
    match depth with
    | 0 => none
    | d + 1 => readArray (readValue d) rest
  | '{' :: rest =>
    match depth with
    | 0 => none
    | d + 1 => readObject (readValue d) rest
  | cs => (readNumeral cs).map fun (n, rest) => (.num n.value, rest)

/-- The deepest nesting that is read. -/
def maxDepth : Nat := 127

/-- The value that a text consists of, with the members of objects as written. -/
def read (text : String) : Option Json :=
  match readValue maxDepth text.toList with
  | some (v, rest) => if skipSpace rest = [] then some v else none
  | none => none

/-- The canonical value of a text in which every number is in range. -/
def parse (text : String) : Option Json :=
  match read text with
  | some v => if v.inRange then some v.canonical else none
  | none => none

end ChatChannel.Json
