import RebasingProxy.Binary64
import RebasingProxy.Toml.Text

/-! # Numbers and moments

Integers, floating-point numbers, dates and times of a TOML text.
-/
namespace RebasingProxy.Toml

def isDecimalDigit (c : Char) : Bool := c.isDigit
def isHexDigit (c : Char) : Bool := (hexValue? c).isSome
def isOctalDigit (c : Char) : Bool := '0' ≤ c && c ≤ '7'
def isBinaryDigit (c : Char) : Bool := c == '0' || c == '1'

/-- Digits with single underscores between them; returns the digits alone. -/
def readDigits (isDigit : Char → Bool) : Reader (List Char)
  | [] => none
  | c :: '_' :: rest =>
    if isDigit c then
      match readDigits isDigit rest with
      | some (digits, after) => some (c :: digits, after)
      | none => some ([c], '_' :: rest)
    else none
  | c :: rest =>
    if isDigit c then
      match readDigits isDigit rest with
      | some (digits, after) => some (c :: digits, after)
      | none => some ([c], rest)
    else none

def digitsValue (base : Nat) (digits : List Char) : Nat :=
  digits.foldl (fun acc c => acc * base + (hexValue? c).getD 0) 0

def readSign : List Char → Bool × List Char
  | '+' :: rest => (false, rest)
  | '-' :: rest => (true, rest)
  | text => (false, text)

/-- A decimal integer without needless zeros in front: sign and digits. -/
def readDecimal (text : List Char) : Option ((Bool × List Char) × List Char) :=
  let (negative, unsigned) := readSign text
  match unsigned with
  | '0' :: rest => some ((negative, ['0']), rest)
  | _ => do
    let (digits, rest) ← readDigits isDecimalDigit unsigned
    return ((negative, digits), rest)

def inRange (n : Int) : Bool := -9223372036854775808 ≤ n && n ≤ 9223372036854775807

def readRadix (base : Nat) (isDigit : Char → Bool) (text : List Char) :
    Option (Int × List Char) := do
  let (digits, rest) ← readDigits isDigit text
  let n : Int := digitsValue base digits
  if inRange n then some (n, rest) else none

def readInteger : Reader Int
  | '0' :: 'x' :: rest => readRadix 16 isHexDigit rest
  | '0' :: 'o' :: rest => readRadix 8 isOctalDigit rest
  | '0' :: 'b' :: rest => readRadix 2 isBinaryDigit rest
  | text => do
    let ((negative, digits), rest) ← readDecimal text
    let magnitude : Int := digitsValue 10 digits
    let n := if negative then -magnitude else magnitude
    if inRange n then some (n, rest) else none

def readFraction : Reader (List Char)
  | '.' :: rest => readDigits isDecimalDigit rest
  | _ => none

def isExponentMark (c : Char) : Bool := c == 'e' || c == 'E'

def readExponent : Reader Int
  | c :: rest =>
    if isExponentMark c then do
      let (negative, rest) := readSign rest
      let (digits, rest) ← readDigits isDecimalDigit rest
      let magnitude : Int := digitsValue 10 digits
      return (if negative then -magnitude else magnitude, rest)
    else none
  | [] => none

def readSpecial (text : List Char) : Option (Binary64 × List Char) :=
  let (negative, unsigned) := readSign text
  match unsigned with
  | 'i' :: 'n' :: 'f' :: rest => some (.infinite negative, rest)
  | 'n' :: 'a' :: 'n' :: rest => some (.notANumber, rest)
  | _ => none

/-- A number with a fraction, an exponent or both. One too great for the format is
refused. -/
def readFloat (text : List Char) : Option (Binary64 × List Char) :=
  match readDecimal text with
  | none => readSpecial text
  | some ((negative, whole), rest) => do
    let (fraction, afterFraction) := (readFraction rest).getD ([], rest)
    let (exponent, after) := (readExponent afterFraction).getD (0, afterFraction)
    if after.length = rest.length then none
    let number := Binary64.ofDecimal negative (digitsValue 10 (whole ++ fraction))
      (exponent - fraction.length)
    if number = .infinite false then none else some (number, after)

def readField (count low high : Nat) (text : List Char) : Option (Nat × List Char) :=
  let digits := text.take count
  let n := digitsValue 10 digits
  if digits.length = count && digits.all isDecimalDigit && low ≤ n && n ≤ high then
    some (n, text.drop count)
  else none

def expect (c : Char) : List Char → Option (List Char)
  | d :: rest => if c = d then some rest else none
  | [] => none

def daysIn (year month : Nat) : Nat :=
  if month = 2 then
    if year % 4 = 0 && (year % 100 != 0 || year % 400 = 0) then 29 else 28
  else if [4, 6, 9, 11].contains month then 30 else 31

def dropDate? (text : List Char) : Option (List Char) := do
  let (year, rest) ← readField 4 0 9999 text
  let (month, rest) ← readField 2 1 12 (← expect '-' rest)
  let (_, rest) ← readField 2 1 (daysIn year month) (← expect '-' rest)
  return rest

/-- Hours, minutes and seconds, with a leap second and a fraction allowed. -/
def dropTime? (text : List Char) : Option (List Char) := do
  let (_, rest) ← readField 2 0 23 text
  let (_, rest) ← readField 2 0 59 (← expect ':' rest)
  let (_, rest) ← readField 2 0 60 (← expect ':' rest)
  match rest with
  | '.' :: c :: after =>
    if isDecimalDigit c then return after.dropWhile isDecimalDigit else return rest
  | _ => return rest

def dropOffset? : List Char → Option (List Char)
  | 'Z' :: rest | 'z' :: rest => some rest
  | c :: rest =>
    if c == '+' || c == '-' then do
      let (_, rest) ← readField 2 0 23 rest
      let (_, rest) ← readField 2 0 59 (← expect ':' rest)
      return rest
    else none
  | [] => none

def skipTimeOfDay (text : List Char) : List Char :=
  match text with
  | c :: rest =>
    if c == 'T' || c == 't' || c == ' ' then
      match dropTime? rest with
      | some rest => (dropOffset? rest).getD rest
      | none => text
    else text
  | [] => text

def dropMoment? (text : List Char) : Option (List Char) :=
  match dropDate? text with
  | some rest => some (skipTimeOfDay rest)
  | none => dropTime? text

end RebasingProxy.Toml
