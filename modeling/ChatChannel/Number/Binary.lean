/-!
# ChatChannel.Number.Binary

Binary floating-point numbers as exact fractions `mant · 2 ^ exp`, and rounding to the nearest
member of a format with ties to the even one.
-/

namespace ChatChannel.Number

/-- The non-negative number `mant · 2 ^ exp`. -/
structure BinaryFraction where
  mant : Nat
  exp : Int
  deriving DecidableEq, Repr

/-- A binary format: how many bits a mantissa has, and the least and the greatest exponent. -/
structure Format where
  precision : Nat
  minExp : Int
  maxExp : Int

/-- The 64-bit format. -/
def binary64 : Format := ⟨53, -1074, 971⟩

/-- The 32-bit format. -/
def binary32 : Format := ⟨24, -149, 104⟩

/-- Two to the power `e`, or one if `e` is negative. -/
def twoPow (e : Int) : Nat := .pow 2 e.toNat

/-- Ten to the power `e`, or one if `e` is negative. -/
def tenPow (e : Int) : Nat := .pow 10 e.toNat

/-- The natural number nearest to `num / den`; a half goes to the even neighbour. -/
def roundHalfEven (num den : Nat) : Nat :=
  let q := num / den
  let twice := 2 * (num % den)
  if twice < den then q
  else if den < twice then q + 1
  else q + q % 2

/-- The member of the format nearest to `num / den`, or `none` beyond the largest one. -/
def Format.round (f : Format) (num den : Nat) : Option BinaryFraction :=
  if num = 0 then some ⟨0, f.minExp⟩
  else
    let low := max f.minExp ((Nat.log2 num : Int) - (Nat.log2 den : Int) - f.precision)
    let fits : Bool := num * twoPow (-low) / (den * twoPow low) < .pow 2 f.precision
    let e := if fits then low else low + 1
    let m := roundHalfEven (num * twoPow (-e)) (den * twoPow e)
    let x : BinaryFraction :=
      if m = .pow 2 f.precision then ⟨.pow 2 (f.precision - 1), e + 1⟩ else ⟨m, e⟩
    if f.maxExp < x.exp then none else some x

/-- The fraction as a quotient of natural numbers. -/
def BinaryFraction.quotient (x : BinaryFraction) : Nat × Nat :=
  (x.mant * twoPow x.exp, twoPow (-x.exp))

/-- The product of two members, rounded. -/
def Format.mul (f : Format) (x y : BinaryFraction) : Option BinaryFraction :=
  let (a, b) := x.quotient
  let (c, d) := y.quotient
  f.round (a * c) (b * d)

/-- The quotient of two members, rounded; the divisor is not zero. -/
def Format.div (f : Format) (x y : BinaryFraction) : Option BinaryFraction :=
  let (a, b) := x.quotient
  let (c, d) := y.quotient
  f.round (a * d) (b * c)

/-- A signed 64-bit number. -/
structure Real64 where
  negative : Bool
  magnitude : BinaryFraction
  deriving DecidableEq, Repr

/-- A 32-bit number, given by its pattern of bits. -/
structure Real32 where
  bits : UInt32
  deriving DecidableEq, Repr

/-- The pattern of a magnitude in the 32-bit format; `none` is infinity. -/
def bits32 : Option BinaryFraction → Nat
  | none => 0x7F800000
  | some x =>
    if x.mant < .pow 2 23 then x.mant
    else (x.exp + 150).toNat * .pow 2 23 + (x.mant - .pow 2 23)

/-- The 32-bit number nearest to `num / den` under the given sign; too large ones are infinite. -/
def Real32.nearest (negative : Bool) (num den : Nat) : Real32 :=
  let sign := if negative then .pow 2 31 else 0
  ⟨UInt32.ofNat (sign + bits32 (binary32.round num den))⟩

end ChatChannel.Number
