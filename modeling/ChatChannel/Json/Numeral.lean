import ChatChannel.Json.Value

/-!
# ChatChannel.Json.Numeral

The text of a JSON number and what it denotes. An integer that fits 64 bits stays an integer. Any
other literal is a real: its leading digits are gathered as long as they fit 64 bits, the result is
rounded, and then scaled by a rounded power of ten.
-/

namespace ChatChannel.Json

open Number

/-- The parts of a number as written: digits before the point, digits after it if there is one, and
the exponent with its sign if there is one. -/
structure Numeral where
  negative : Bool
  whole : List Char
  decimals : Option (List Char)
  exponent : Option (Bool × List Char)
  deriving DecidableEq, Repr

/-- The value of a decimal digit. -/
def digitValue (c : Char) : Nat := c.toNat - '0'.toNat

/-- The number that a list of digits denotes. -/
def digitsValue (ds : List Char) : Nat :=
  ds.foldl (fun n c => 10 * n + digitValue c) 0

/-- Splits off the digits at the start of a text. -/
def takeDigits (cs : List Char) : List Char × List Char :=
  (cs.takeWhile Char.isDigit, cs.dropWhile Char.isDigit)

/-- Reads the digits before the point: a single zero, or digits that do not start with zero. -/
def readWhole (cs : List Char) : Option (List Char × List Char) :=
  match takeDigits cs with
  | ([], _) => none
  | ('0' :: _ :: _, _) => none
  | r => some r

/-- Reads a point and the digits after it, if there is a point. -/
def readDecimals : List Char → Option (Option (List Char) × List Char)
  | '.' :: rest =>
    match takeDigits rest with
    | ([], _) => none
    | (ds, rest) => some (some ds, rest)
  | cs => some (none, cs)

/-- Reads an exponent, if there is one. -/
def readExponent : List Char → Option (Option (Bool × List Char) × List Char)
  | [] => some (none, [])
  | c :: rest =>
    if c = 'e' || c = 'E' then
      let (negative, rest) : Bool × List Char := match rest with
        | '+' :: r => (false, r)
        | '-' :: r => (true, r)
        | r => (false, r)
      match takeDigits rest with
      | ([], _) => none
      | (ds, rest) => some (some (negative, ds), rest)
    else some (none, c :: rest)

/-- Reads a number at the start of a text. -/
def readNumeral (cs : List Char) : Option (Numeral × List Char) := do
  let (negative, cs) : Bool × List Char := match cs with
    | '-' :: rest => (true, rest)
    | cs => (false, cs)
  let (whole, cs) ← readWhole cs
  let (decimals, cs) ← readDecimals cs
  let (exponent, cs) ← readExponent cs
  some (⟨negative, whole, decimals, exponent⟩, cs)

/-- The largest number of 64 bits, plus one. -/
def wordBound : Nat := UInt64.size

/-- Appends digits to a number as long as it stays below `wordBound`; gives the number, and how
many digits were left over. -/
def gather (n : Nat) : List Char → Nat × Nat
  | [] => (n, 0)
  | c :: rest =>
    if wordBound ≤ 10 * n + digitValue c then (n, rest.length + 1)
    else gather (10 * n + digitValue c) rest

/-- The rounded power of ten; `e` is at most 308. -/
def powerOfTen (e : Nat) : BinaryFraction :=
  (binary64.round (.pow 10 e) 1).getD ⟨0, 0⟩

/-- Scales down by `10 ^ e`. A larger power than `10 ^ 308` is divided out in two steps, and what is
left below the second one is zero. -/
def scaleDown (x : BinaryFraction) (e : Nat) : Option BinaryFraction :=
  if e ≤ 308 then binary64.div x (powerOfTen e)
  else
    match binary64.div x (powerOfTen 308) with
    | none => none
    | some y =>
      if e ≤ 616 then binary64.div y (powerOfTen (e - 308)) else some ⟨0, binary64.minExp⟩

/-- The magnitude `n · 10 ^ e`, or `none` beyond the range of 64-bit reals. -/
def scaled (n : Nat) (e : Int) : Option BinaryFraction :=
  match binary64.round n 1 with
  | none => none
  | some x =>
    if 0 ≤ e then
      if e ≤ 308 then binary64.mul x (powerOfTen e.toNat)
      else if x.mant = 0 then some x
      else none
    else if x.mant = 0 then some x
    else scaleDown x (-e).toNat

/-- A numeral read as a real. Leftover digits before the point raise the exponent, digits taken
after it lower it, and leftover digits after it are dropped. -/
def Numeral.real (n : Numeral) : JsonNumber :=
  let (lead, skipped) := gather 0 n.whole
  let decimals := n.decimals.getD []
  let (significand, dropped) := gather lead decimals
  let base : Int := (skipped : Int) - ((decimals.length : Int) - (dropped : Int))
  let power : Int := match n.exponent with
    | none => base
    | some (down, ds) => if down then base - digitsValue ds else base + digitsValue ds
  match scaled significand power with
  | none => .tooLarge
  | some x => .real ⟨n.negative, x⟩

/-- What a numeral denotes. The integer zero with a minus sign is the real `-0.0`. -/
def Numeral.value (n : Numeral) : JsonNumber :=
  if n.decimals.isNone && n.exponent.isNone then
    let m := digitsValue n.whole
    if !n.negative && m < wordBound then .natural m
    else if n.negative && 0 < m && m ≤ .pow 2 63 then .negative m
    else n.real
  else n.real

end ChatChannel.Json
