import ChatChannel.Text.Lowercase

/-!
# ChatChannel.Gate

The allow-list. A sender passes if the list is empty, or if an entry describes the sender's address
or the bare user part of it; entries may hold `*` for any text.
-/

namespace ChatChannel.Gate

open Text

/-- What is left of a text after a beginning. -/
def afterStart : List Char → List Char → Option (List Char)
  | [], text => some text
  | _ :: _, [] => none
  | p :: ps, c :: rest => if p = c then afterStart ps rest else none

/-- What is left of a text after the first place where `part` occurs. -/
def afterFirst (part : List Char) : List Char → Option (List Char)
  | [] => if part = [] then some [] else none
  | c :: rest =>
    match afterStart part (c :: rest) with
    | some tail => some tail
    | none => afterFirst part rest

/-- Finds the parts one after the other, each at its first place; gives what is left. -/
def afterParts : List (List Char) → List Char → Option (List Char)
  | [], text => some text
  | part :: parts, text =>
    match afterFirst part text with
    | none => none
    | some tail => afterParts parts tail

/-- A pattern describes a text. The part before the first star must be the beginning of the text
and the others are looked for from left to right; if the pattern does not end in a star, nothing
may be left after the last of them. -/
def globMatches (pattern text : List Char) : Bool :=
  match pieces '*' pattern with
  | [] => pattern = text
  | [_] => pattern = text
  | first :: parts =>
    match afterStart first text with
    | none => false
    | some tail =>
      match afterParts parts tail with
      | none => false
      | some left => parts.getLast? = some [] || left = []

/-- The text before the first `sep`, or all of it. -/
def before (sep : Char) (cs : List Char) : List Char :=
  cs.takeWhile (· ≠ sep)

/-- The user of an address without agent, device and server. -/
def userPart (address : List Char) : List Char :=
  before '.' (before ':' (before '@' address))

/-- An entry as it is compared: without blanks around it, without leading plus signs, and in lower
case. -/
def entryPattern (entry : String) : List Char :=
  lowerChars ((trimChars entry.toList).dropWhile (· = '+'))

/-- A pattern admits a sender, given by its address in lower case. -/
def patternAdmits (pattern sender : List Char) : Bool :=
  if pattern = [] then false
  else if pattern.contains '*' then
    globMatches pattern sender || globMatches pattern (userPart sender)
  else pattern = sender || pattern = userPart sender

/-- A sender passes the gate. -/
def admits (allow : List String) (sender : String) : Bool :=
  if allow = [] then true
  else allow.any fun entry => patternAdmits (entryPattern entry) (lowerChars sender.toList)

end ChatChannel.Gate
