/-! # Double-precision numbers

Reading a decimal rounds it to the nearest double, a half going to the even one. Writing
takes the fewest digits that read back, of two such numbers the nearer one or, where they
are equally near, the greater, and puts all digits around the point, at least one of them
behind it.
-/
namespace RebasingProxy

/-- A finite number is `significand * 2 ^ shift` units of `2 ^ -1074`. -/
inductive Binary64
  | notANumber
  | infinite (negative : Bool)
  | finite (negative : Bool) (significand shift : Nat)
deriving DecidableEq, Repr

namespace Binary64

def twoTo (n : Nat) : Nat := Nat.pow 2 n
def tenTo (n : Nat) : Nat := Nat.pow 10 n

def unitExponent : Nat := 1074
def significandBits : Nat := 53
def maxShift : Nat := 2045

def roundQuotient (numerator denominator : Nat) : Nat :=
  let quotient := numerator / denominator
  let twice := 2 * (numerator % denominator)
  if twice > denominator || (twice == denominator && quotient % 2 == 1) then quotient + 1
  else quotient

def nearestUnits (numerator denominator : Nat) : Nat :=
  let shift := Nat.log2 (numerator / denominator) + 1 - significandBits
  roundQuotient numerator (denominator * twoTo shift) * twoTo shift

def ofQuotient (negative : Bool) (numerator denominator : Nat) : Binary64 :=
  let units := numerator * twoTo unitExponent
  let shift := Nat.log2 (units / denominator) + 1 - significandBits
  let significand := roundQuotient units (denominator * twoTo shift)
  let (significand, shift) :=
    if significand = twoTo significandBits then (twoTo (significandBits - 1), shift + 1)
    else (significand, shift)
  if shift > maxShift then infinite negative else finite negative significand shift

def digitCount (n : Nat) : Nat := (Nat.toDigits 10 n).length

/-- The number nearest to `digits * 10 ^ exponent`. Powers of ten far outside the range are
not formed. -/
def ofDecimal (negative : Bool) (digits : Nat) (exponent : Int) : Binary64 :=
  let magnitude : Int := digitCount digits + exponent
  if digits = 0 || magnitude < -330 then finite negative 0 0
  else if magnitude > 310 then infinite negative
  else if 0 ≤ exponent then ofQuotient negative (digits * tenTo exponent.toNat) 1
  else ofQuotient negative digits (tenTo (-exponent).toNat)

/-- The number of digits before the point; zeros directly behind the point count less than
none. -/
def pointPosition (numerator denominator : Nat) : Int :=
  if numerator ≥ denominator then digitCount (numerator / denominator)
  else 1 - digitCount ((denominator - 1) / numerator)

def decimalQuotient (digits : Nat) (exponent : Int) : Nat × Nat :=
  if 0 ≤ exponent then (digits * tenTo exponent.toNat, 1) else (digits, tenTo (-exponent).toNat)

/-- Whether a decimal reads back as `significand * 2 ^ shift` units. The ends of the
interval that rounds to a number belong to it if its significand is even. -/
def readsBack (significand shift digits : Nat) (exponent : Int) : Bool :=
  let (numerator, denominator) := decimalQuotient digits exponent
  let value := numerator * twoTo (unitExponent + 2)
  let step := twoTo shift * denominator
  let below := if significand = twoTo (significandBits - 1) && shift > 0 then 1 else 2
  let low := (4 * significand - below) * step
  let high := (4 * significand + 2) * step
  if significand % 2 == 0 then low ≤ value && value ≤ high else low < value && value < high

def decimalOfLength? (significand shift count : Nat) : Option (Nat × Int) :=
  let numerator := significand * twoTo shift
  let denominator := twoTo unitExponent
  let exponent := pointPosition numerator denominator - count
  let (scaled, unit) :=
    if 0 ≤ exponent then (numerator, denominator * tenTo exponent.toNat)
    else (numerator * tenTo (-exponent).toNat, denominator)
  let lower := scaled / unit
  let nearest := if 2 * (scaled % unit) ≥ unit then lower + 1 else lower
  let other := if nearest = lower then lower + 1 else lower
  if readsBack significand shift nearest exponent then some (nearest, exponent)
  else if readsBack significand shift other exponent then some (other, exponent)
  else none

def shortestDecimal (significand shift : Nat) : Nat × Int :=
  ((List.range 17).findSome? fun i => decimalOfLength? significand shift (i + 1)).getD (0, 0)

def positional (digits : Nat) (exponent : Int) : List Char :=
  let written := Nat.toDigits 10 digits
  if 0 ≤ exponent then written ++ List.replicate exponent.toNat '0' ++ ['.', '0']
  else
    let places := (-exponent).toNat
    let padded := List.replicate (places + 1 - written.length) '0' ++ written
    let whole := padded.take (padded.length - places)
    let fraction := (padded.drop (padded.length - places)).reverse.dropWhile (· == '0')
    whole ++ '.' :: (if fraction.isEmpty then ['0'] else fraction.reverse)

def text : Binary64 → String
  | notANumber => "NaN"
  | infinite negative => if negative then "-inf" else "inf"
  | finite negative significand shift =>
    let magnitude :=
      if significand = 0 then ['0', '.', '0']
      else
        let (digits, exponent) := shortestDecimal significand shift
        positional digits exponent
    String.ofList (if negative then '-' :: magnitude else magnitude)

end Binary64

end RebasingProxy
