import ChatChannel.Qr.Segmentation

/-!
# ChatChannel.Qr.Symbol

QR codes for the terminal, with error correction of level M. The version, and with it the size, is
the smallest one that holds the text. A code is drawn with two rows of modules to a line and a
quiet zone around it, light modules filled.
-/

namespace ChatChannel.Qr

/-- How many bytes of data the versions hold, from version 1 on. -/
def capacities : List Nat :=
  [16, 28, 44, 64, 86, 108, 124, 154, 182, 216, 254, 290, 334, 365, 415, 453, 507, 563, 627, 669,
   714, 782, 860, 914, 1000, 1062, 1128, 1193, 1267, 1373, 1455, 1541, 1631, 1725, 1812, 1914,
   1992, 2102, 2216, 2334]

/-- How many bits of data a version holds; there is none but 1 to 40. -/
def capacity (version : Nat) : Nat :=
  8 * ((capacities[version - 1]?).getD 0)

/-- The greatest version of a size class. -/
def SizeClass.last : SizeClass → Nat
  | .small => 9
  | .medium => 26
  | .large => 40

/-- The smallest version that holds so many bits. -/
def smallestVersion? (bits : Nat) : Option Nat :=
  (capacities.findIdx? fun bytes => bits ≤ 8 * bytes).map (· + 1)

/-- The version for a text, if there is one that holds it. -/
def version? (bytes : List UInt8) : Option Nat :=
  [SizeClass.small, .medium, .large].findSome? fun size =>
    let bits := bitLength size bytes
    if bits ≤ capacity size.last then smallestVersion? bits else none

/-- The width of the quiet zone, in modules. -/
def quietZone : Nat := 4

/-- The size of a drawing, in characters. -/
structure Drawing where
  columns : Nat
  lines : Nat
  deriving DecidableEq, Repr

/-- The size of the drawing of a version. -/
def drawing (version : Nat) : Drawing :=
  let columns := 17 + 4 * version + 2 * quietZone
  ⟨columns, (columns + 1) / 2⟩

/-- A module of the drawing is dark, as far as the finder pattern at its upper left reaches: a
square of three modules in a ring of seven. -/
def isFinderDark (row column : Nat) : Bool :=
  let inside (low high : Nat) : Bool :=
    quietZone + low ≤ row && row ≤ quietZone + high && quietZone + low ≤ column
      && column ≤ quietZone + high
  (inside 0 6 && !inside 1 5) || inside 2 4

/-- The character for two modules, one above the other. -/
def halfBlock (upperDark lowerDark : Bool) : Char :=
  match upperDark, lowerDark with
  | false, false => '█'
  | false, true => '▀'
  | true, false => '▄'
  | true, true => ' '

/-- The upper left corner of every drawing: twelve columns of five lines. -/
def corner : List String :=
  (List.range 5).map fun line =>
    String.ofList ((List.range 12).map fun column =>
      halfBlock (isFinderDark (2 * line) column) (isFinderDark (2 * line + 1) column))

/-- The text of the failure to draw a code. -/
def tooLong : String := "data too long"

/-- The drawing of a code, or nothing if it is too long. -/
def draw? (code : String) : Option Drawing :=
  (version? code.toUTF8.toList).map drawing

end ChatChannel.Qr
