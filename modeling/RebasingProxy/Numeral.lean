/-! # Decimal numerals

Numbers of 64 bits as settings write them: digits, possibly with a plus sign before them.
-/
namespace RebasingProxy

inductive NumeralFault
  | empty | invalidDigit | tooLarge
deriving DecidableEq, Repr

namespace NumeralFault

def message : NumeralFault → String
  | empty => "cannot parse integer from empty string"
  | invalidDigit => "invalid digit found in string"
  | tooLarge => "number too large to fit in target type"

end NumeralFault

namespace Numeral

def limit : Nat := Nat.pow 2 64

/-- Digits from the left. A wrong digit is only met while the number still fits. -/
def readDigits (n : Nat) : List Char → Except NumeralFault Nat
  | [] => .ok n
  | c :: rest =>
    if !c.isDigit then .error .invalidDigit
    else
      let next := n * 10 + (c.toNat - '0'.toNat)
      if next < limit then readDigits next rest else .error .tooLarge

def read (text : String) : Except NumeralFault Nat :=
  match text.toList with
  | [] => .error .empty
  | ['+'] => .error .invalidDigit
  | '+' :: digits => readDigits 0 digits
  | digits => readDigits 0 digits

end Numeral

end RebasingProxy
