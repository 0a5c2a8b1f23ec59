/-!
# ChatChannel.Bridge.Url

The form of a bridge's URL, which is checked before anything is sent. After the scheme there is an
authority (a host, with an account before it and a port after it), and then a path, a query and a
fragment. Characters outside ASCII are allowed in paths and queries only.
-/

namespace ChatChannel.Bridge.Url

/-- What is wrong with a URL. -/
inductive Fault where
  | tooLong
  | empty
  | format
  | authority
  | character
  deriving DecidableEq, Repr

/-- The text of a fault. -/
def Fault.message : Fault → String
  | .tooLong => "HTTP format error: uri too long"
  | .empty => "HTTP format error: empty string"
  | .format => "HTTP format error: invalid format"
  | .authority => "HTTP format error: invalid authority"
  | .character => "HTTP format error: invalid uri character"

/-- What begins after an authority. -/
def endsAuthority (c : Char) : Bool :=
  c = '/' || c = '?' || c = '#'

/-- A character that an authority may hold. -/
def isAuthorityChar (c : Char) : Bool :=
  c.isAlphanum || "!$&'()*+,-.:;=@[]_~%".toList.contains c

/-- What has been seen of an authority. -/
structure Seen where
  colons : Nat
  opened : Bool
  closed : Bool
  percent : Bool
  /-- The last character was an at-sign. -/
  atSign : Bool
  deriving DecidableEq, Repr

/-- An authority of which nothing has been seen. -/
def Seen.nothing : Seen := ⟨0, false, false, false, false⟩

/-- The greatest number of colons that is counted. -/
def maxColons : Nat := 8

/-- Takes one character of an authority. Colons and percent signs before an at-sign or a closing
bracket do not count. -/
def Seen.take (s : Seen) (c : Char) : Except Fault Seen :=
  let s' := { s with atSign := false }
  if c = ':' then .ok { s' with colons := s.colons + 1 }
  else if c = '[' then
    if s.percent || s.opened then .error .authority else .ok { s' with opened := true }
  else if c = ']' then
    if !s.opened || s.closed then .error .authority
    else .ok { s' with closed := true, colons := 0, percent := false }
  else if c = '@' then .ok { s with colons := 0, percent := false, atSign := true }
  else if c = '%' then .ok { s' with percent := true }
  else if isAuthorityChar c then .ok s'
  else .error .character

/-- Takes an authority up to its end, or up to a colon too many; gives what was seen, and what
follows the authority. -/
def Seen.takeAll (s : Seen) : List Char → Except Fault (Seen × List Char)
  | [] => .ok (s, [])
  | c :: rest =>
    if endsAuthority c then .ok (s, c :: rest)
    else if c = ':' && maxColons ≤ s.colons then .ok (s, [])
    else
      match s.take c with
      | .error fault => .error fault
      | .ok s => s.takeAll rest

/-- An authority is well formed: its brackets match, and after account and brackets there is at
most one colon, no percent sign, and something at all. -/
def Seen.check (s : Seen) : Except Fault Unit :=
  if s.opened != s.closed || 1 < s.colons || s.atSign || s.percent then .error .authority
  else .ok ()

/-- A character that a path may hold. -/
def isPathChar (c : Char) : Bool :=
  let n := c.toNat
  n = 0x21 || n = 0x22 || (0x24 ≤ n && n ≤ 0x3B) || n = 0x3D || (0x40 ≤ n && n ≤ 0x5F)
    || (0x61 ≤ n && n ≠ 0x60)

/-- A character that a query may hold. -/
def isQueryChar (c : Char) : Bool :=
  let n := c.toNat
  n = 0x21 || (0x24 ≤ n && n ≤ 0x3B) || n = 0x3D || 0x3F ≤ n

/-- The path, the query and the fragment hold no character that they must not; a fragment may hold
anything. -/
def checkPath (cs : List Char) : Except Fault Unit :=
  let path := cs.takeWhile fun c => c ≠ '?' && c ≠ '#'
  let query := ((cs.dropWhile fun c => c ≠ '?' && c ≠ '#').takeWhile (· ≠ '#')).drop 1
  if path.all isPathChar && query.all isQueryChar then .ok () else .error .character

/-- The longest URL, in bytes. -/
def maxLength : Nat := 65534

/-- What follows the scheme. -/
def afterScheme : List Char → List Char
  | ':' :: '/' :: '/' :: rest => rest
  | [] => []
  | _ :: rest => afterScheme rest

/-- Checks a URL that has a scheme. -/
def check (url : String) : Except Fault Unit :=
  if maxLength < url.utf8ByteSize then .error .tooLong
  else
    let cs := afterScheme url.toList
    if cs = [] then .error .empty
    else
      match Seen.nothing.takeAll cs with
      | .error fault => .error fault
      | .ok (seen, rest) =>
        match seen.check with
        | .error fault => .error fault
        | .ok () =>
          if (cs.head?.map endsAuthority).getD true then .error .format else checkPath rest

end ChatChannel.Bridge.Url
