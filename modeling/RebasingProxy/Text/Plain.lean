/-! # Plain text

What is not printed to a terminal carries no control sequences. A sequence begins with an
escape, and its kind decides where it ends. Outside of sequences everything is kept but
the controls that are not white space.
-/
namespace RebasingProxy.Text

/-- Where a text is being read: outside of sequences, behind an escape, behind an escape
with intermediate characters, inside a control sequence, at the head of a device string,
inside a string, or inside a command to the terminal. -/
inductive ControlMode
  | outside | escape | intermediate | sequence | device | string | command
deriving DecidableEq, Repr

namespace ControlMode

def isWhiteControl (c : Char) : Bool := c == '\t' || c == '\n' || c == '\x0c' || c == '\r'

/-- The byte `9c` ends a string, also as a part of another character. -/
def endsString (c : Char) : Bool := (String.utf8EncodeChar c).contains 0x9c

def opened (c : Char) : ControlMode :=
  if c.toNat < 0x30 then intermediate
  else match c with
    | '[' => sequence
    | ']' => command
    | 'P' => device
    | 'X' | '^' | '_' => string
    | _ => outside

def next (mode : ControlMode) (c : Char) : ControlMode :=
  match mode with
  | escape => opened c
  | intermediate => if c.toNat < 0x30 then intermediate else outside
  | sequence => if c.toNat < 0x40 then sequence else outside
  | device => if c.toNat < 0x40 then device else string
  | mode => mode

/-- The mode behind a character, and whether the character is kept. An escape begins a new
sequence everywhere, and two controls cancel every sequence. -/
def step (mode : ControlMode) (c : Char) : ControlMode × Bool :=
  let inAscii := 0x20 ≤ c.toNat && c.toNat < 0x7f
  if c == '\x1b' then (escape, false)
  else if c == '\x18' || c == '\x1a' then (outside, false)
  else
    match mode with
    | outside => (outside, inAscii || isWhiteControl c || 0x80 ≤ c.toNat)
    | command => (if c == '\x07' then outside else command, false)
    | string => (if endsString c then outside else string, false)
    | device => (if inAscii then next device c else device, false)
    | mode =>
      if isWhiteControl c then (outside, true)
      else (if inAscii then next mode c else mode, false)

end ControlMode

def plainFrom (mode : ControlMode) : List Char → List Char
  | [] => []
  | c :: rest =>
    let (mode, kept) := mode.step c
    if kept then c :: plainFrom mode rest else plainFrom mode rest

def plain (text : String) : String := String.ofList (plainFrom .outside text.toList)

def bold (text : String) : String := "\x1b[1m" ++ text ++ "\x1b[0m"

end RebasingProxy.Text
