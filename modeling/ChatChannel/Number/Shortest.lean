import ChatChannel.Number.Binary

/-!
# ChatChannel.Number.Shortest

The shortest decimal that reads back as a given binary number, and its layout as text.
-/

namespace ChatChannel.Number

/-- The decimal `digits · 10 ^ power`. -/
structure Decimal where
  digits : Nat
  power : Int
  deriving DecidableEq, Repr

/-- Of the multiples of `10 ^ t` that round to `x`, the nearest to `x`, if there is one. All
quantities are in quarters of the last place of `x`, so that half-way points are whole. -/
def BinaryFraction.onGrid (f : Format) (x : BinaryFraction) (t : Int) : Option Decimal :=
  let scale := twoPow (x.exp - 2) * tenPow (-t)
  let unit := twoPow (2 - x.exp) * tenPow t
  let centre := 4 * x.mant * scale
  let below := if x.mant = .pow 2 (f.precision - 1) && f.minExp < x.exp then 1 else 2
  let low := (4 * x.mant - below) * scale
  let high := (4 * x.mant + 2) * scale
  let inside (d : Nat) : Bool :=
    if x.mant % 2 = 0 then low ≤ d * unit && d * unit ≤ high
    else low < d * unit && d * unit < high
  let d := centre / unit
  let near : Nat := roundHalfEven centre unit
  if inside near then some ⟨near, t⟩
  else if inside d then some ⟨d, t⟩
  else if inside (d + 1) then some ⟨d + 1, t⟩
  else none

/-- The grids from coarse to fine that can hold a 64-bit number. -/
def gridPowers : List Int :=
  (List.range 660).map fun (i : Nat) => 309 - (i : Int)

/-- The decimal with the fewest digits that rounds to `x`, and of those the nearest. -/
def BinaryFraction.shortest (f : Format) (x : BinaryFraction) : Decimal :=
  (gridPowers.findSome? (x.onGrid f)).getD ⟨x.mant, 0⟩

/-- How decimals are laid out: the exponents written positionally lie between `low` and `high`,
and other exponents have at least `exponentDigits` digits. -/
structure Layout where
  low : Int
  high : Int
  exponentDigits : Nat

/-- Numbers in messages are positional from `0.00001` up to, but not including, `1e16`; other
exponents have a sign and at least two digits. -/
def messageLayout : Layout := ⟨-5, 15, 2⟩

/-- The digits of a natural number, filled with zeros to a least width. -/
def padded (width n : Nat) : String :=
  let ds := toString n
  String.ofList (List.replicate (width - ds.length) '0') ++ ds

/-- A decimal with a point, or with an exponent. -/
def Decimal.text (layout : Layout) (d : Decimal) : String :=
  let ds := (toString d.digits).toList
  let lead : Int := d.power + ds.length - 1
  let zeros (n : Int) := List.replicate n.toNat '0'
  if layout.low ≤ lead && lead ≤ layout.high then
    if 0 ≤ d.power then String.ofList (ds ++ zeros d.power ++ ['.', '0'])
    else if 0 ≤ lead then
      let n := lead.toNat + 1
      String.ofList (ds.take n ++ ['.'] ++ ds.drop n)
    else String.ofList (['0', '.'] ++ zeros (-lead - 1) ++ ds)
  else
    let fraction := match ds with
      | [] => []
      | [c] => [c]
      | c :: rest => c :: '.' :: rest
    let sign := if lead < 0 then "-" else "+"
    String.ofList fraction ++ "e" ++ sign ++ padded layout.exponentDigits lead.natAbs

/-- The text of a signed number; zero keeps its sign. -/
def Real64.text (x : Real64) : String :=
  let sign := if x.negative then "-" else ""
  if x.magnitude.mant = 0 then sign ++ "0.0"
  else sign ++ (x.magnitude.shortest binary64).text messageLayout

end ChatChannel.Number
