import ChatChannel.Text.Blank
import ChatChannel.Text.VisibleTable

/-!
# ChatChannel.Text.Quoted

A text shown between double quotes for an operator: quotes, backslashes and the common control
characters have short escapes, and every other character that would not show by itself is written
as `\u` with its code point in braces.
-/

namespace ChatChannel.Text

/-- The character shows by itself: it has a visible form and is not drawn onto its neighbour. -/
def isShown (c : Char) : Bool :=
  if c.toNat < 0x7F then 0x20 ≤ c.toNat
  else !inRanges graphemeExtendRanges c.toNat && !inRanges invisibleRanges c.toNat

/-- The code point in lower-case hexadecimal digits. -/
def hexDigits (n : Nat) : List Char :=
  Nat.toDigits 16 n

/-- One character between quotes. The single quote stands for itself. -/
def quoteChar (c : Char) : List Char :=
  if c = '"' then ['\\', '"']
  else if c = '\\' then ['\\', '\\']
  else if c = '\n' then ['\\', 'n']
  else if c = '\r' then ['\\', 'r']
  else if c = '\t' then ['\\', 't']
  else if c = '\x00' then ['\\', '0']
  else if isShown c then [c]
  else ['\\', 'u', '{'] ++ hexDigits c.toNat ++ ['}']

/-- The text between double quotes. -/
def quoted (s : String) : String :=
  String.ofList (['"'] ++ s.toList.flatMap quoteChar ++ ['"'])

end ChatChannel.Text
