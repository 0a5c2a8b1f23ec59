/-!
# ChatChannel.Text.Utf8

Bytes read as text. `decode?` accepts exactly the well-formed encodings; `decodeLossy` accepts
every byte string and puts the replacement character for each longest ill-formed part. `octets`
leaves the bytes as they are, one character for each.
-/

namespace ChatChannel.Text

/-- Bytes are compared one by one, whatever else is in scope. -/
instance instDecidableEqBytes : DecidableEq ByteArray := ByteArray.instDecidableEq

/-- The text that these bytes encode, if they are well-formed UTF-8. -/
def decode? (bytes : ByteArray) : Option String :=
  String.fromUTF8? bytes

/-- Bytes as the characters of the same numbers. -/
def octets (bytes : ByteArray) : List Char :=
  bytes.data.toList.map fun b => Char.ofNat b.toNat

/-- The bytes with the numbers of these characters. -/
def ofOctets (cs : List Char) : ByteArray :=
  ⟨(cs.map fun c => UInt8.ofNat c.toNat).toArray⟩

/-- What the first bytes of a byte string are: a character, or a part that belongs to none. -/
inductive Head where
  | char (c : Char) (rest : List UInt8)
  | broken (rest : List UInt8)

/-- The bytes that are left after the head. -/
def Head.rest : Head → List UInt8
  | .char _ r => r
  | .broken r => r

/-- Reads `k` more bytes of a character whose leading bits are `acc`; the next one must lie between
`lo` and `hi`, those after it anywhere among the continuation bytes. -/
def readTail (lo hi : Nat) (acc : Nat) : Nat → List UInt8 → Head
  | 0, bs => .char (Char.ofNat acc) bs
  | _ + 1, [] => .broken []
  | k + 1, b :: bs =>
    if lo ≤ b.toNat && b.toNat ≤ hi then readTail 0x80 0xBF (acc * 64 + (b.toNat - 0x80)) k bs
    else .broken (b :: bs)

/-- Reads one character. The bounds of the second byte exclude overlong forms, surrogates and
code points beyond U+10FFFF. -/
def readHead (b : UInt8) (bs : List UInt8) : Head :=
  let n := b.toNat
  if n < 0x80 then .char (Char.ofNat n) bs
  else if n < 0xC2 then .broken bs
  else if n < 0xE0 then readTail 0x80 0xBF (n - 0xC0) 1 bs
  else if n = 0xE0 then readTail 0xA0 0xBF 0 2 bs
  else if n = 0xED then readTail 0x80 0x9F (n - 0xE0) 2 bs
  else if n < 0xF0 then readTail 0x80 0xBF (n - 0xE0) 2 bs
  else if n = 0xF0 then readTail 0x90 0xBF 0 3 bs
  else if n < 0xF4 then readTail 0x80 0xBF (n - 0xF0) 3 bs
  else if n = 0xF4 then readTail 0x80 0x8F 4 3 bs
  else .broken bs

/-- A character has no more bytes than there are. -/
theorem length_rest_readTail_le (lo hi acc k : Nat) (bs : List UInt8) :
    (readTail lo hi acc k bs).rest.length ≤ bs.length := by
  induction k generalizing lo hi acc bs with
  | zero => simp [readTail, Head.rest]
  | succ k ih =>
    cases bs with
    | nil => simp [readTail, Head.rest]
    | cons b bs =>
      rw [readTail]
      split
      · exact Nat.le_succ_of_le (ih _ _ _ bs)
      · simp [Head.rest]

/-- Reading goes on with what follows the first byte, or less. -/
theorem length_rest_readHead_le (b : UInt8) (bs : List UInt8) :
    (readHead b bs).rest.length ≤ bs.length := by
  have tail (lo hi acc k : Nat) := length_rest_readTail_le lo hi acc k bs
  grind [readHead, Head.rest]

/-- The characters of a byte string, with U+FFFD for each longest ill-formed part. -/
def decodeLossyBytes : List UInt8 → List Char
  | [] => []
  | b :: bs =>
    have h := length_rest_readHead_le b bs
    match hh : readHead b bs with
    | .char c rest =>
      have : rest.length ≤ bs.length := by simpa [hh, Head.rest] using h
      c :: decodeLossyBytes rest
    | .broken rest =>
      have : rest.length ≤ bs.length := by simpa [hh, Head.rest] using h
      '\uFFFD' :: decodeLossyBytes rest
termination_by bs => bs.length
decreasing_by all_goals simp only [List.length_cons]; omega

/-- The text of a byte string, with U+FFFD for each longest ill-formed part. -/
def decodeLossy (bytes : ByteArray) : String :=
  String.ofList (decodeLossyBytes bytes.toList)

end ChatChannel.Text
