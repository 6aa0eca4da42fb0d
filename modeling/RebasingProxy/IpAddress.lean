/-! # Client addresses

The address of a connection's peer. Four octets are written in decimal with points, eight
groups in hexadecimal with colons, where the first of the longest runs of two or more
zero groups becomes a double colon. An address that embeds four octets shows them.
-/
namespace RebasingProxy

inductive IpAddress
  | v4 (octets : Vector UInt8 4)
  | v6 (groups : Vector UInt16 8)
deriving DecidableEq, Repr

namespace IpAddress

def dotted (octets : List Nat) : String := String.intercalate "." (octets.map toString)

def hexGroups (groups : List Nat) : String :=
  String.intercalate ":" (groups.map fun g => String.ofList (Nat.toDigits 16 g))

def leadingZeros (groups : List Nat) : Nat := (groups.takeWhile (· == 0)).length

/-- Start and length of the first of the longest runs of zeros, looked for from position
`start` on, when `best` is the longest one before. -/
def longestRun (best : Nat × Nat) (start : Nat) : List Nat → Nat × Nat
  | [] => best
  | group :: rest =>
    let run := leadingZeros (group :: rest)
    longestRun (if run > best.2 then (start, run) else best) (start + 1) rest

def text : IpAddress → String
  | v4 octets => dotted (octets.toList.map UInt8.toNat)
  | v6 groups =>
    let groups := groups.toList.map UInt16.toNat
    match groups with
    | [0, 0, 0, 0, 0, 0xffff, high, low] =>
      "::ffff:" ++ dotted [high / 256, high % 256, low / 256, low % 256]
    | _ =>
      let (start, run) := longestRun (0, 0) 0 groups
      if run > 1 then
        hexGroups (groups.take start) ++ "::" ++ hexGroups (groups.drop (start + run))
      else hexGroups groups

def parseNumber? (base maxDigits limit : Nat) (text : List Char) : Option Nat :=
  let digit? (c : Char) : Option Nat :=
    let value :=
      if c.isDigit then c.toNat - '0'.toNat
      else if 'a' ≤ c.toLower && c.toLower ≤ 'f' then c.toLower.toNat - 'a'.toNat + 10
      else base
    if value < base then some value else none
  if text.isEmpty || text.length > maxDigits then none
  else do
    let digits ← text.mapM digit?
    let n := digits.foldl (fun acc d => acc * base + d) 0
    if n < limit then some n else none

def ofLength? {α : Type} (n : Nat) (items : List α) : Option (Vector α n) :=
  if h : items.length = n then some ⟨items.toArray, by simp [h]⟩ else none

def parseV4? (text : List Char) : Option (Vector UInt8 4) := do
  let octets ← (text.splitOn '.').mapM fun part =>
    if part.length > 1 && part.head? == some '0' then none else parseNumber? 10 3 256 part
  ofLength? 4 (octets.map Nat.toUInt8)

def parseGroups? : List (List Char) → Option (List Nat)
  | [] => some []
  | [last] =>
    match (parseV4? last).map fun octets => octets.toList.map UInt8.toNat with
    | some [a, b, c, d] => some [a * 256 + b, c * 256 + d]
    | _ => (parseNumber? 16 4 65536 last).map ([·])
  | part :: rest => do
    let group ← parseNumber? 16 4 65536 part
    let groups ← parseGroups? rest
    return group :: groups

def parseSide? (text : List Char) : Option (List Nat) :=
  if text.isEmpty then some [] else parseGroups? (text.splitOn ':')

def cutAtDoubleColon : List Char → List Char × Option (List Char)
  | ':' :: ':' :: rest => ([], some rest)
  | [] => ([], none)
  | c :: rest =>
    let (before, after) := cutAtDoubleColon rest
    (c :: before, after)

/-- Eight groups, or fewer with a double colon in the place of the zero groups left out. -/
def parseV6? (text : List Char) : Option (Vector UInt16 8) := do
  let groups ← match cutAtDoubleColon text with
    | (whole, none) => parseGroups? (whole.splitOn ':')
    | (before, some after) => do
      let front ← parseSide? before
      let back ← parseSide? after
      let given := front.length + back.length
      if given < 8 then some (front ++ List.replicate (8 - given) 0 ++ back) else none
  ofLength? 8 (groups.map Nat.toUInt16)

/-- The address in a socket address: a colon and a socket number stand behind it, and eight groups
are between brackets, possibly with a zone. -/
def ofSocketAddress? (text : String) : Option IpAddress := do
  match text.toList with
  | '[' :: rest =>
    let inside := rest.takeWhile (· != ']')
    let groups ← parseV6? (inside.takeWhile (· != '%'))
    match rest.drop inside.length with
    | ']' :: ':' :: number =>
      let _ ← parseNumber? 10 5 65536 number
      return v6 groups
    | _ => none
  | address =>
    match address.splitOn ':' with
    | [octets, number] =>
      let _ ← parseNumber? 10 5 65536 number
      (parseV4? octets).map v4
    | _ => none

end IpAddress

end RebasingProxy
