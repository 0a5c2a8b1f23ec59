/-!
# ChatChannel.Qr.Segmentation

How the bytes of a text are divided into segments of a QR code. A segment holds bytes of one mode;
the modes differ in the characters that they can hold and in the bits that these take.
-/

namespace ChatChannel.Qr

/-- The encoding of a segment. -/
inductive Mode where
  | numeric
  | alphanumeric
  | byte
  | kanji
  deriving DecidableEq, Repr

/-- What a byte can be. The first byte of a kanji lies in one of three ranges, and after the last
of them fewer bytes may follow. -/
inductive ByteClass where
  | symbol
  | digit
  | letter
  | kanjiLead
  | kanjiLeadWide
  | kanjiLeadLast
  /-- Follows any lead. -/
  | kanjiTrail
  /-- Follows all leads but the last. -/
  | kanjiTrailHigh
  | other
  deriving DecidableEq, Repr

/-- The class of a byte. -/
def ByteClass.of (b : UInt8) : ByteClass :=
  let n := b.toNat
  if n = 0x20 || n = 0x24 || n = 0x25 || n = 0x2A || n = 0x2B || (0x2D ≤ n && n ≤ 0x2F)
    || n = 0x3A then .symbol
  else if 0x30 ≤ n && n ≤ 0x39 then .digit
  else if 0x41 ≤ n && n ≤ 0x5A then .letter
  else if 0x81 ≤ n && n ≤ 0x9F then .kanjiLead
  else if 0xE0 ≤ n && n ≤ 0xEA then .kanjiLeadWide
  else if n = 0xEB then .kanjiLeadLast
  else if n = 0x40 || (0x5B ≤ n && n ≤ 0x7E) || n = 0x80 || (0xA0 ≤ n && n ≤ 0xBF) then
    .kanjiTrail
  else if (0xC0 ≤ n && n ≤ 0xDF) || (0xEC ≤ n && n ≤ 0xFC) then .kanjiTrailHigh
  else .other

/-- What has been seen of the segment that is being read. -/
inductive Reading where
  | digits
  | alphanumerics
  | bytes
  /-- Kanji, of which the last one lacks its second byte. -/
  | kanjiHalf
  /-- Kanji, of which the last one began with the last lead and lacks its second byte. -/
  | kanjiHalfLast
  | kanjis
  deriving DecidableEq, Repr

/-- What is read after the first byte of a segment. -/
def Reading.opened : ByteClass → Reading
  | .symbol => .alphanumerics
  | .digit => .digits
  | .letter => .alphanumerics
  | .kanjiLead => .kanjiHalf
  | .kanjiLeadWide => .kanjiHalf
  | .kanjiLeadLast => .kanjiHalfLast
  | .kanjiTrail => .bytes
  | .kanjiTrailHigh => .bytes
  | .other => .bytes

/-- What is read after one more byte, if it belongs to the segment. -/
def Reading.next? : Reading → ByteClass → Option Reading
  | .digits, .digit => some .digits
  | .alphanumerics, .symbol => some .alphanumerics
  | .alphanumerics, .letter => some .alphanumerics
  | .bytes, .kanjiTrail => some .bytes
  | .bytes, .kanjiTrailHigh => some .bytes
  | .bytes, .other => some .bytes
  | .kanjiHalf, .symbol => none
  | .kanjiHalf, .digit => none
  | .kanjiHalf, .other => none
  | .kanjiHalf, _ => some .kanjis
  | .kanjiHalfLast, .letter => some .kanjis
  | .kanjiHalfLast, .kanjiLead => some .kanjis
  | .kanjiHalfLast, .kanjiTrail => some .kanjis
  | .kanjis, .kanjiLead => some .kanjiHalf
  | .kanjis, .kanjiLeadWide => some .kanjiHalf
  | .kanjis, .kanjiLeadLast => some .kanjiHalfLast
  | _, _ => none

/-- A segment: its mode and how many bytes it covers. -/
structure Segment where
  mode : Mode
  length : Nat
  deriving DecidableEq, Repr

/-- The segments that end here, where `length` bytes have been read. Half a kanji is a byte of its
own. -/
def Reading.closed (length : Nat) : Reading → List Segment
  | .digits => [⟨.numeric, length⟩]
  | .alphanumerics => [⟨.alphanumeric, length⟩]
  | .bytes => [⟨.byte, length⟩]
  | .kanjis => [⟨.kanji, length⟩]
  | .kanjiHalf => halved
  | .kanjiHalfLast => halved
where
  /-- Whole kanji, and a byte that is left over. -/
  halved : List Segment :=
    if length = 1 then [⟨.byte, 1⟩] else [⟨.kanji, length - 1⟩, ⟨.byte, 1⟩]

/-- Goes on with a segment of which `length` bytes have been read. -/
def segmentsFrom (reading : Reading) (length : Nat) : List ByteClass → List Segment
  | [] => reading.closed length
  | c :: rest =>
    match reading.next? c with
    | some reading => segmentsFrom reading (length + 1) rest
    | none => reading.closed length ++ segmentsFrom (.opened c) 1 rest

/-- The longest segments of one mode each. -/
def segments : List ByteClass → List Segment
  | [] => []
  | c :: rest => segmentsFrom (.opened c) 1 rest

/-- The sizes of codes between which the width of a segment's length differs. -/
inductive SizeClass where
  | small
  | medium
  | large
  deriving DecidableEq, Repr

/-- How many bits hold the length of a segment. -/
def lengthBits : SizeClass → Mode → Nat
  | .small, .numeric => 10
  | .small, .alphanumeric => 9
  | .small, .byte => 8
  | .small, .kanji => 8
  | .medium, .numeric => 12
  | .medium, .alphanumeric => 11
  | .medium, .byte => 16
  | .medium, .kanji => 10
  | .large, .numeric => 14
  | .large, .alphanumeric => 13
  | .large, .byte => 16
  | .large, .kanji => 12

/-- How many bits hold the bytes of a segment. -/
def Segment.dataBits (s : Segment) : Nat :=
  match s.mode with
  | .numeric => (10 * s.length + 2) / 3
  | .alphanumeric => (11 * s.length + 1) / 2
  | .byte => 8 * s.length
  | .kanji => 13 * (s.length / 2)

/-- How many bits a segment takes; four of them name the mode. -/
def Segment.bits (size : SizeClass) (s : Segment) : Nat :=
  4 + lengthBits size s.mode + s.dataBits

/-- The narrowest mode that holds what two modes hold. -/
def Mode.join : Mode → Mode → Mode
  | .numeric, .numeric => .numeric
  | .numeric, .alphanumeric => .alphanumeric
  | .alphanumeric, .numeric => .alphanumeric
  | .alphanumeric, .alphanumeric => .alphanumeric
  | .kanji, .kanji => .kanji
  | _, _ => .byte

/-- Joins a segment with those after it, from left to right, where this does not take more bits. -/
def joinFrom (size : SizeClass) (last : Segment) : List Segment → List Segment
  | [] => [last]
  | s :: rest =>
    let both : Segment := ⟨last.mode.join s.mode, last.length + s.length⟩
    if both.bits size ≤ last.bits size + s.bits size then joinFrom size both rest
    else last :: joinFrom size s rest

/-- Joins neighbouring segments. -/
def joined (size : SizeClass) : List Segment → List Segment
  | [] => []
  | s :: rest => joinFrom size s rest

/-- How many bits the bytes take. -/
def bitLength (size : SizeClass) (bytes : List UInt8) : Nat :=
  ((joined size (segments (bytes.map ByteClass.of))).map (Segment.bits size)).foldl Nat.add 0

end ChatChannel.Qr
