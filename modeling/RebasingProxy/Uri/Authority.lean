import RebasingProxy.Numeral

/-! # The authority of a URI

Who is addressed: user information before an `@`, a host, and a socket number behind a colon. A
host may be an address between brackets, which holds colons of its own.
-/
namespace RebasingProxy

inductive UriError
  | tooLong | emptyText | schemeTooLong | invalidCharacter | invalidAuthority | invalidFormat
deriving DecidableEq, Repr

namespace UriError

def message : UriError → String
  | tooLong => "uri too long"
  | emptyText => "empty string"
  | schemeTooLong => "scheme too long"
  | invalidCharacter => "invalid uri character"
  | invalidAuthority => "invalid authority"
  | invalidFormat => "invalid format"

end UriError

namespace Authority

def endsAuthority (c : Char) : Bool := c == '/' || c == '?' || c == '#'

def isPlain (c : Char) : Bool := c.isAlphanum || "!$&'()*+,-.;=_~".toList.contains c

/-- What is known about an authority read from the left. Colons and percent signs are
forgotten at an `@`, which ends the user information, and at a closing bracket. -/
structure Scan where
  colons : Nat := 0
  opened : Bool := false
  closed : Bool := false
  percent : Bool := false
  afterAt : Bool := false
deriving DecidableEq, Repr

/-- An address between brackets has up to seven colons, and one more may stand before
the socket number. -/
def maxColons : Nat := 8

def step (scan : Scan) (c : Char) : Except UriError Scan :=
  let scan' := { scan with afterAt := false }
  if c == ':' then
    if scan.colons ≥ maxColons then .error .invalidAuthority
    else .ok { scan' with colons := scan.colons + 1 }
  else if c == '[' then
    if scan.percent || scan.opened then .error .invalidAuthority
    else .ok { scan' with opened := true }
  else if c == ']' then
    if !scan.opened || scan.closed then .error .invalidAuthority
    else .ok { scan' with closed := true, colons := 0, percent := false }
  else if c == '@' then .ok { scan with colons := 0, percent := false, afterAt := true }
  else if c == '%' then .ok { scan' with percent := true }
  else if isPlain c then .ok scan'
  else .error .invalidCharacter

/-- Brackets are balanced, at most one colon stands before the socket number, a host
follows the user information, and no percent sign is in the host. -/
def Scan.isComplete (scan : Scan) : Bool :=
  scan.opened == scan.closed && scan.colons ≤ 1 && !scan.afterAt && !scan.percent

def check (text : List Char) : Except UriError Unit := do
  let scan ← text.foldlM step {}
  if scan.isComplete then .ok () else .error .invalidAuthority

def withoutUser (text : List Char) : List Char :=
  (text.reverse.takeWhile (· != '@')).reverse

def host (text : List Char) : List Char :=
  let addressed := withoutUser text
  if addressed.head? == some '[' then addressed.takeWhile (· != ']') ++ [']']
  else addressed.takeWhile (· != ':')

/-- The number of 16 bits behind the last colon, if such a number stands there. -/
def socketNumber? (text : List Char) : Option Nat :=
  if text.contains ':' then
    match Numeral.read (String.ofList (text.reverse.takeWhile (· != ':')).reverse) with
    | .ok number => if number < 65536 then some number else none
    | .error _ => none
  else none

end Authority

end RebasingProxy
