import ChatChannel.Json.Value
import ChatChannel.Number.Shortest
import ChatChannel.Text.Hex

/-!
# ChatChannel.Json.Printer

JSON text without blanks. In strings only the quote, the backslash and the control characters below
U+0020 are escaped.
-/

namespace ChatChannel.Json

open Text

/-- One character of a string. -/
def escapeChar (c : Char) : List Char :=
  if c = '"' then ['\\', '"']
  else if c = '\\' then ['\\', '\\']
  else if c = '\x08' then ['\\', 'b']
  else if c = '\t' then ['\\', 't']
  else if c = '\n' then ['\\', 'n']
  else if c = '\x0C' then ['\\', 'f']
  else if c = '\r' then ['\\', 'r']
  else if c.toNat < 0x20 then
    '\\' :: 'u' :: hexDigitsOf 4 c.toNat
  else [c]

/-- A string with its quotes. -/
def stringChars (s : String) : List Char :=
  ['"'] ++ s.toList.flatMap escapeChar ++ ['"']

/-- A number; one beyond the range of 64-bit reals has no text and is written as null. -/
def numberChars : JsonNumber → List Char
  | .natural n => (toString n).toList
  | .negative n => '-' :: (toString n).toList
  | .real x => x.text.toList
  | .tooLarge => "null".toList

mutual

/-- The text of a value. -/
def chars : Json → List Char
  | .null => "null".toList
  | .bool true => "true".toList
  | .bool false => "false".toList
  | .num n => numberChars n
  | .str s => stringChars s
  | .arr items => '[' :: itemChars items ++ [']']
  | .obj members => '{' :: memberChars members ++ ['}']

/-- The texts of the items with commas between them. -/
def itemChars : List Json → List Char
  | [] => []
  | [v] => chars v
  | v :: w :: rest => chars v ++ ',' :: itemChars (w :: rest)

/-- The texts of the members with commas between them. -/
def memberChars : List (String × Json) → List Char
  | [] => []
  | [(k, v)] => stringChars k ++ ':' :: chars v
  | (k, v) :: m :: rest => stringChars k ++ ':' :: chars v ++ ',' :: memberChars (m :: rest)

end

/-- The text of a value. -/
def text (v : Json) : String :=
  String.ofList (chars v)

end ChatChannel.Json
