/-! # Durations

A span of time in whole nanoseconds. It is written in the largest unit among seconds,
milliseconds, microseconds and nanoseconds that does not exceed it, with as many
decimals as it needs.
-/
namespace RebasingProxy

structure Duration where
  nanoseconds : Nat
deriving DecidableEq, Repr

namespace Duration

instance : Zero Duration := ⟨⟨0⟩⟩

instance : Add Duration := ⟨fun first second => ⟨first.nanoseconds + second.nanoseconds⟩⟩

instance : LE Duration := ⟨fun first second => first.nanoseconds ≤ second.nanoseconds⟩

instance (first second : Duration) : Decidable (first ≤ second) :=
  inferInstanceAs (Decidable (first.nanoseconds ≤ second.nanoseconds))

def ofSeconds (n : Nat) : Duration := ⟨n * 1000000000⟩
def ofMilliseconds (n : Nat) : Duration := ⟨n * 1000000⟩

def milliseconds (d : Duration) : Nat := d.nanoseconds / 1000000

def isZero (d : Duration) : Bool := d.nanoseconds == 0

def decimals (part places : Nat) : List Char :=
  let digits := Nat.toDigits 10 part
  let padded := List.replicate (places - digits.length) '0' ++ digits
  (padded.reverse.dropWhile (· == '0')).reverse

/-- The number of units of `10 ^ places` nanoseconds, with the name of the unit. -/
def inUnit (d : Duration) (places : Nat) (unit : String) : String :=
  let scale := Nat.pow 10 places
  let fraction := d.nanoseconds % scale
  let tail := if fraction = 0 then "" else "." ++ String.ofList (decimals fraction places)
  toString (d.nanoseconds / scale) ++ tail ++ unit

def text (d : Duration) : String :=
  if 1000000000 ≤ d.nanoseconds then d.inUnit 9 "s"
  else if 1000000 ≤ d.nanoseconds then d.inUnit 6 "ms"
  else if 1000 ≤ d.nanoseconds then d.inUnit 3 "µs"
  else d.inUnit 0 "ns"

end Duration

end RebasingProxy
