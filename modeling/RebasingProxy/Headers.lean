import RebasingProxy.Bytes

/-! # Header fields

Header fields in order. Names are kept in lower case, a name may occur any number of
times, and the values of one name keep their order.
-/
namespace RebasingProxy

/-- A header value may hold every byte but the controls; the tab is allowed. -/
def isLegalHeaderValue (value : Bytes) : Bool :=
  value.all fun b => (0x20 ≤ b && b != 0x7f) || b == 0x09

/-- A value can be read as text if it holds visible ASCII, blanks and tabs only. -/
def headerText? (value : Bytes) : Option String :=
  if value.all fun b => (0x20 ≤ b && b < 0x7f) || b == 0x09 then
    some (String.ofList (value.map fun b => Char.ofNat b.toNat))
  else none

def lowerCase (text : String) : String := text.map Char.toLower

structure Headers where
  fields : List (String × Bytes) := []
deriving DecidableEq, Repr

namespace Headers

def ofList (fields : List (String × Bytes)) : Headers :=
  ⟨fields.map fun field => (lowerCase field.1, field.2)⟩

def values (headers : Headers) (name : String) : List Bytes :=
  (headers.fields.filter fun field => field.1 == name).map (·.2)

def first? (headers : Headers) (name : String) : Option Bytes := (headers.values name).head?

def contains (headers : Headers) (name : String) : Bool :=
  headers.fields.any fun field => field.1 == name

def append (headers : Headers) (name : String) (value : Bytes) : Headers :=
  ⟨headers.fields ++ [(name, value)]⟩

def remove (headers : Headers) (name : String) : Headers :=
  ⟨headers.fields.filter fun field => field.1 != name⟩

def insert (headers : Headers) (name : String) (value : Bytes) : Headers :=
  (headers.remove name).append name value

def sortedFields (headers : Headers) : List (String × Bytes) :=
  headers.fields.mergeSort fun a b => a.1 ≤ b.1

def isBlank (c : Char) : Bool := c == ' ' || c == '\t'

def trimBlanks (text : List Char) : List Char :=
  ((text.dropWhile isBlank).reverse.dropWhile isBlank).reverse

/-- The comma-separated tokens of all text values of a name, without the blanks
around them and in lower case. -/
def tokens (headers : Headers) (name : String) : List String :=
  ((headers.values name).filterMap headerText?).flatMap fun value =>
    (value.toList.splitOn ',').map fun token => lowerCase (String.ofList (trimBlanks token))

end Headers

end RebasingProxy
