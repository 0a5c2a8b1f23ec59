import ChatChannel.Text.Blank
import ChatChannel.Text.CaseTable

/-!
# ChatChannel.Text.Lowercase

Lower-casing of whole texts by the Unicode rules: every character has its own lower-case form,
except that a capital sigma at the end of a word becomes the final sigma.
-/

namespace ChatChannel.Text

/-- Letters that have, or could have, a case. -/
def isCased (c : Char) : Bool :=
  inRanges casedRanges c.toNat

/-- Characters that do not interrupt a word when its last letter is looked for. -/
def isCaseIgnorable (c : Char) : Bool :=
  inRanges caseIgnorableRanges c.toNat

/-- The lower-case form of a character outside ASCII, from the table of runs. -/
def lowerFromRuns (n : Nat) : Nat :=
  match lowerRuns.find? fun r => r.first ≤ n && n ≤ r.last && (n - r.first) % r.stride == 0 with
  | some r => (n + r.shift).toNat
  | none => n

/-- The lower-case form of one character, whatever stands around it. The dotted capital `I` is the
only character whose form has two characters. -/
def lowerChar (c : Char) : List Char :=
  if c.toNat < 0x80 then [c.toLower]
  else if c.toNat = 0x130 then ['i', '\u0307']
  else [Char.ofNat (lowerFromRuns c.toNat)]

/-- The first character that is not ignorable is a cased letter. -/
def meetsCased (cs : List Char) : Bool :=
  match cs.dropWhile isCaseIgnorable with
  | [] => false
  | c :: _ => isCased c

/-- The lower-case form of the rest of a text; `before` is what came before it, nearest first. -/
def lowerAfter (before : List Char) : List Char → List Char
  | [] => []
  | c :: rest =>
    let form :=
      if c = 'Σ' then
        if meetsCased before && !meetsCased rest then ['ς'] else ['σ']
      else lowerChar c
    form ++ lowerAfter (c :: before) rest

/-- The lower-case form of a text. -/
def lowerChars (cs : List Char) : List Char :=
  lowerAfter [] cs

/-- A character moved to lower case if it is an ASCII capital, and left alone otherwise. -/
def asciiLower (s : String) : String :=
  String.ofList (s.toList.map Char.toLower)

end ChatChannel.Text
