/-!
# ChatChannel.Duration

Spans of time in whole milliseconds, and the way they are shown.
-/

namespace ChatChannel

/-- A span of time. -/
structure Duration where
  millis : Nat
  deriving DecidableEq, Repr

namespace Duration

/-- A span of whole seconds. -/
def ofSeconds (n : Nat) : Duration := ⟨1000 * n⟩

/-- The digits after the point for a number of thousandths, without trailing zeros. -/
def fraction (n : Nat) : String :=
  if n = 0 then ""
  else if n % 100 = 0 then "." ++ toString (n / 100)
  else if n % 10 = 0 then "." ++ (if n < 100 then "0" else "") ++ toString (n / 10)
  else "." ++ (if n < 10 then "00" else if n < 100 then "0" else "") ++ toString n

/-- Seconds from one second on, milliseconds below; the empty span is shown in nanoseconds. -/
def text (d : Duration) : String :=
  if 1000 ≤ d.millis then toString (d.millis / 1000) ++ fraction (d.millis % 1000) ++ "s"
  else if 0 < d.millis then toString d.millis ++ "ms"
  else "0ns"

end Duration

end ChatChannel
