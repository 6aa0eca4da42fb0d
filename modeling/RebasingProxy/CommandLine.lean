import RebasingProxy.CommandLine.Similarity
import RebasingProxy.CommandLine.Usage
import RebasingProxy.Config.Layer

/-! # The command line

Arguments are taken from left to right. A switch that takes a value is settled when the
next switch is taken or the arguments end, so that the argument behind it can still be
its value.
-/
namespace RebasingProxy

structure Arguments where
  configFile : Option String := none
  layer : Layer := {}
deriving DecidableEq

inductive Halt
  | help
  | version
  | misuse (error : UsageError)
deriving DecidableEq, Repr

namespace CommandLine

def numberFor (switch : Switch) (value : String) : Except UsageError Nat :=
  (Numeral.read value).mapError (.invalidNumber value switch)

def addType (types : Option ContentTypes) (name : String) : Option ContentTypes :=
  some ((types.getD .empty).insert name)

/-- Notes what a switch with its value says. The name of a file is not empty. -/
def note (arguments : Arguments) (switch : Switch) (value : String) :
    Except UsageError Arguments :=
  let layer := arguments.layer
  let set (layer : Layer) : Except UsageError Arguments := .ok { arguments with layer := layer }
  match switch with
  | .config =>
    if value.isEmpty then .error (.missingValue switch)
    else .ok { arguments with configFile := some value }
  | .bindAddress => set { layer with bindAddress := some value }
  | .bindPath => set { layer with bindPath := some value }
  | .backendHost => set { layer with backendHost := some value }
  | .backendPath => set { layer with backendPath := some value }
  | .backendScheme => set { layer with backendScheme := some value }
  | .replaceHost => set { layer with replaceHost := some true }
  | .keepHost => set { layer with replaceHost := some false }
  | .context => set { layer with contextUri := some value }
  | .rebasedType => set { layer with rebasedTypes := addType layer.rebasedTypes value }
  | .timeout => do set { layer with timeoutSeconds := some (← numberFor switch value) }
  | .maxLine => do set { layer with maxLine := some (← numberFor switch value) }
  | .help | .version => .ok arguments

/-- The state between two arguments. `pending` is a switch that waits to be settled, with
its value if it has one; after a bare double dash nothing more is expected. -/
structure Scan where
  arguments : Arguments := {}
  given : List Switch := []
  pending : Option (Switch × Option String) := none
  ended : Bool := false
deriving DecidableEq

/-- The switches given so far with one more. It takes away the one it undoes. -/
def addGiven (before : List Switch) (switch : Switch) : List Switch :=
  let kept := before.filter fun other => some other != switch.undoes?
  if kept.contains switch then kept else kept ++ [switch]

def settleOne (scan : Scan) (switch : Switch) (value : Option String) : Except Halt Scan :=
  match switch, value with
  | .help, _ => .error .help
  | .version, _ => .error .version
  | _, none =>
    if switch.takesValue then .error (.misuse (.missingValue switch)) else record ""
  | _, some value => record value
where
  record (value : String) : Except Halt Scan :=
    if scan.given.contains switch && !switch.isRepeatable then
      .error (.misuse (.repeated switch))
    else
      match note scan.arguments switch value with
      | .error error => .error (.misuse error)
      | .ok arguments =>
        .ok { scan with arguments := arguments, given := addGiven scan.given switch }

/-- The switches given when an unknown one is met. The one that waits counts if it has a
value, whether this can be taken or not; if it was there before, neither counts. -/
def givenSoFar (scan : Scan) : List Switch :=
  match scan.pending with
  | some (switch, some _) =>
    if scan.given.contains switch && !switch.isRepeatable then scan.given.erase switch
    else addGiven scan.given switch
  | _ => scan.given

def settle (scan : Scan) : Except Halt Scan :=
  match scan.pending with
  | none => .ok scan
  | some (switch, value) => settleOne { scan with pending := none } switch value

def take (scan : Scan) (switch : Switch) (value : Option String) : Except Halt Scan := do
  settleOne (← settle scan) switch value

def await (scan : Scan) (switch : Switch) : Except Halt Scan := do
  return { (← settle scan) with pending := some (switch, none) }

def readLong (scan : Scan) (text : List Char) : Except Halt Scan :=
  let name := text.takeWhile (· != '=')
  let attached := match text.drop name.length with
    | _ :: value => some (String.ofList value)
    | [] => none
  match Switch.ofLong? (String.ofList name) with
  | none =>
    let similar := Similarity.closest? (String.ofList name) Switch.all Switch.long
    let used := similar.elim (givenSoFar scan) (addGiven (givenSoFar scan))
    .error (.misuse (.unknownArgument ("--" ++ String.ofList name) similar used))
  | some switch =>
    match attached with
    | some value =>
      if switch.takesValue then take scan switch (some value)
      else .error (.misuse (.unexpectedValue value switch scan.given))
    | none => if switch.takesValue then await scan switch else take scan switch none

def attachedValue : List Char → String
  | '=' :: value => String.ofList value
  | value => String.ofList value

def readShort (scan : Scan) : List Char → Except Halt Scan
  | [] => .ok scan
  | c :: rest =>
    match Switch.ofShort? c with
    | none => .error (.misuse (.unknownArgument (String.ofList ['-', c]) none []))
    | some switch =>
      if !switch.takesValue then do readShort (← take scan switch none) rest
      else if rest.isEmpty then await scan switch
      else take scan switch (some (attachedValue rest))

def readPlain (scan : Scan) (argument : String) : Except Halt Scan :=
  match scan.pending with
  | some (switch, none) => .ok { scan with pending := some (switch, some argument) }
  | _ => .error (.misuse (.unknownArgument argument none []))

def step (scan : Scan) (argument : String) : Except Halt Scan :=
  if scan.ended then .error (.misuse (.unknownArgument argument none []))
  else
    match argument.toList with
    | ['-', '-'] => .ok { scan with ended := true }
    | '-' :: '-' :: text => readLong scan text
    | '-' :: c :: rest => readShort scan (c :: rest)
    | _ => readPlain scan argument

def parse (arguments : List String) : Except Halt Arguments := do
  let scan ← arguments.foldlM step {}
  return (← settle scan).arguments

end CommandLine

end RebasingProxy
