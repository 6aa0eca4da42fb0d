import RebasingProxy.Event
import RebasingProxy.Event.Pattern
import RebasingProxy.Text.Alphanumeric
import RebasingProxy.Text.WhiteSpace

/-! # Filters on events

A filter is a list of directives between commas. A directive names a target, a field, a
level, or several of them. Of those that cover an event, the one with the longest target
decides, and among these one with a field comes before one without.
-/
namespace RebasingProxy

structure Directive where
  target : String := ""
  /-- A field that the event must have. -/
  field : Option String := none
  /-- The directive is for events inside a span. The proxy opens none. -/
  inSpan : Bool := false
  verbosity : Nat
deriving DecidableEq, Repr

namespace Directive

def verbosity? (text : List Char) : Option Nat :=
  match Numeral.read (String.ofList text) with
  | .ok n => if n ≤ 5 then some n else none
  | .error _ =>
    [("off", 0), ("error", 1), ("warn", 2), ("info", 3), ("debug", 4), ("trace", 5)].lookup
      (String.ofList (text.map Char.toLower))

/-- Without a level everything passes. -/
def readLevel? (text : List Char) : Option Nat := if text.isEmpty then some 5 else verbosity? text

def startsTarget (c : Char) : Bool := "-:_".toList.contains c || Text.isAlphanumeric c

/-- A directive as it is being read. Where its parts lie is seen with the white space
around it left out, and the parts are cut at these places from the text with it. -/
structure Written where
  text : List Char
  trimmed : List Char

namespace Written

def cut (written : Written) (start stop : Nat) : List Char := (written.text.take stop).drop start

def levelAt? (written : Written) (start : Nat) : Option Nat :=
  match written.trimmed.drop start with
  | [] => some 5
  | '=' :: _ => readLevel? (written.text.drop (start + 1))
  | _ => none

def readField? (field : List Char) : Option String :=
  match field.splitOn '=' with
  | _ :: value :: _ => if Pattern.isPattern value then name field else none
  | _ => if field.isEmpty then none else name field
where
  name (field : List Char) := some (String.ofList (field.takeWhile (· != '=')))

/-- What stands between brackets, the first of which is passed: the name of a span, a field
between braces, or both. A field with a value is a matter of spans. -/
def bracketsAt? (written : Written) (target : String) (start : Nat) : Option Directive := do
  let name := (written.trimmed.drop start).takeWhile fun c => c != ']' && c != '\x7b'
  let after := start + name.length
  match written.trimmed.drop after with
  | ']' :: _ =>
    return { target := target, inSpan := true, verbosity := ← written.levelAt? (after + 1) }
  | '\x7b' :: inside =>
    let stop := after + 1 + (inside.takeWhile (· != '\x7d')).length
    let field := written.cut (after + 1) stop
    match written.trimmed.drop stop with
    | '\x7d' :: ']' :: _ =>
      return {
        target := target
        field := some (← readField? field)
        inSpan := !name.isEmpty || field.contains '='
        verbosity := ← written.levelAt? (stop + 2) }
    | _ => none
  | _ => none

end Written

/-- A level alone is for every target, a target alone lets everything pass. -/
def parse? (text : List Char) : Option Directive := do
  let written : Written := ⟨text, Text.trim text⟩
  let first ← written.trimmed.head?
  let name := written.trimmed.takeWhile fun c => c != '=' && c != '['
  let target := String.ofList (text.take name.length)
  if first != '[' && !startsTarget first then none
  match written.trimmed.drop name.length with
  | [] =>
    match verbosity? text with
    | some verbosity => return { verbosity := verbosity }
    | none => return { target := String.ofList text, verbosity := 5 }
  | '=' :: _ =>
    return { target := target, verbosity := ← readLevel? (text.drop (name.length + 1)) }
  | _ => written.bracketsAt? target (name.length + 1)

/-- The message is a field of every event. -/
def covers (directive : Directive) (event : Event) : Bool :=
  !directive.inSpan && directive.target.toList.isPrefixOf event.target.toList
    && directive.field.elim true fun name => ("message" :: event.fields.map (·.1)).contains name

/-- Whether a directive is at least as specific as another one. Of two fields the one later
in the alphabet counts as more specific. -/
def isAsSpecific (directive other : Directive) : Bool :=
  if directive.target.length != other.target.length then
    directive.target.length > other.target.length
  else
    match directive.field, other.field with
    | _, none => true
    | none, some _ => false
    | some name, some other => other ≤ name

end Directive

structure Filter where
  directives : List Directive
deriving DecidableEq, Repr

namespace Filter

def standard : Filter := ⟨[{ verbosity := 3 }, { target := "rebase_proxy", verbosity := 4 }]⟩

/-- Without a directive only errors pass. -/
def parse? (text : String) : Option Filter := do
  let parts := (text.toList.splitOn ',').filter fun part => !part.isEmpty
  let directives ← parts.mapM Directive.parse?
  return ⟨if directives.isEmpty then [{ verbosity := 1 }] else directives⟩

def ofSetting (setting : Option String) : Filter := (setting.bind parse?).getD standard

/-- The later of two equally specific directives holds. -/
def moreSpecific (best : Option Directive) (next : Directive) : Option Directive :=
  match best with
  | none => some next
  | some held => if next.isAsSpecific held then some next else best

def passes (filter : Filter) (event : Event) : Bool :=
  let deciding := (filter.directives.filter fun d => d.covers event).foldl moreSpecific none
  deciding.elim false fun d => event.level.verbosity ≤ d.verbosity

end Filter

end RebasingProxy
