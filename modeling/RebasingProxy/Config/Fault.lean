import RebasingProxy.Config.File

/-! # The place of a fault

Where in a configuration file a key is unknown or a value has the wrong type.
-/
namespace RebasingProxy
open Toml

namespace Layer

def isFault {α : Type} : Except FileFault α → Bool
  | .error _ => true
  | .ok _ => false

def wrongItem? : Value → Option Nat
  | .array items => items.findIdx? fun item => isFault (textOf item)
  | _ => none

/-- The text from an item of an array on, and the text behind the item. -/
def itemAt? : Nat → List Char → Option (List Char × List Char)
  | 0, text => do
    let start := skipFiller false text
    let (_, rest) ← readValue maxDepth start
    return (start, rest)
  | n + 1, text => do
    let (_, rest) ← readValue maxDepth (skipFiller false text)
    itemAt? n (← expect ',' (skipFiller false rest))

def keyOf? (text : List Char) : Option (String × List Char × List Char) := do
  let start := skipBlanks (text.dropWhile (· == '['))
  let (name, rest) ← readKeyPart start
  return (name, start, rest)

/-- The value of a pair, or the item of it that is wrong. -/
def valueOf? (text : List Char) (value : Value) : Option (List Char × List Char) := do
  let (_, rest) ← readKey text
  let start := skipBlanks (← expect '=' rest)
  match value, wrongItem? value with
  | .array _, some n => itemAt? n (← expect '[' start)
  | _, _ =>
    let (_, rest) ← readValue maxDepth start
    return (start, rest)

/-- Whether a statement gives a value to the key itself, and not to one inside of it. -/
def isDirect : Statement → Bool
  | .pair key _ | .table key | .element key => key.path.isEmpty

def wrongPart? (text : List Char) (statement : Statement) (value : Value) :
    Option (List Char × List Char) := do
  let (name, start, rest) ← keyOf? text
  if !fileKeys.contains name || !isDirect statement then return (start, rest)
  match statement with
  | .pair .. => valueOf? text value
  | .table _ => return (text, ← expect ']' (skipBlanks rest))
  | .element _ => return (text, ← expect ']' (← expect ']' (skipBlanks rest)))

/-- The place of the first fault in a file. A header that opens a table counts more than
what mentions the table before. -/
def faultExcerpt? (file : String) : Option Excerpt := do
  let (key, value) ← (← parseDocument file).find? fun entry =>
    isFault (({} : Layer).setKey entry.1 entry.2)
  let mentions := (← statements? file).filter fun s => (keyOf? s.1).map (·.1) == some key
  let (text, statement) ← (mentions.find? fun s => isDirect s.2) <|> mentions.head?
  let (start, stop) ← wrongPart? text statement value
  return .between file.toList start stop

end Layer

end RebasingProxy
