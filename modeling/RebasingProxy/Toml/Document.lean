import RebasingProxy.Toml.Number
import RebasingProxy.Toml.Placement

/-! # TOML documents

A document is a sequence of statements, one a line: a key with its value, or a header
that opens the table the next keys belong to. What they say together is one table.
-/
namespace RebasingProxy.Toml

/-- The elements of an array up to its closing bracket, at most `limit` of them. A comma
may follow the last one. -/
def readElements (value : Reader Value) : Nat → Reader (List Value)
  | 0, _ => none
  | limit + 1, text =>
    match skipFiller false text with
    | ']' :: rest => some ([], rest)
    | text => do
      let (first, rest) ← value text
      match skipFiller false rest with
      | ']' :: rest => return ([first], rest)
      | ',' :: rest =>
        let (others, rest) ← readElements value limit rest
        return (first :: others, rest)
      | _ => none

def readPair (value : Reader Value) : Reader (Key × Value) := fun text => do
  let (key, rest) ← readKey text
  let (v, rest) ← value (skipBlanks (← expect '=' rest))
  return ((key, v), rest)

def readPairs (value : Reader Value) : Nat → Reader (List (Key × Value))
  | 0, _ => none
  | limit + 1, text => do
    let (first, rest) ← readPair value text
    match skipBlanks rest with
    | '\x7d' :: rest => return ([first], rest)
    | ',' :: rest =>
      let (others, rest) ← readPairs value limit rest
      return (first :: others, rest)
    | _ => none

def tableOfPairs (pairs : List (Key × Value)) : Option Value := do
  let entries ← pairs.foldlM (fun entries pair => place pair.1 pair.2 .header entries) []
  return .table .closed entries

def readArray (value : Reader Value) : Reader Value := fun text => do
  let (items, rest) ← readElements value (text.length + 1) text
  return (.array items, rest)

def readInlineTable (value : Reader Value) : Reader Value := fun text =>
  match skipBlanks text with
  | '\x7d' :: rest => some (.table .closed [], rest)
  | text => do
    let (pairs, rest) ← readPairs value (text.length + 1) text
    return (← tableOfPairs pairs, rest)

def readNumber (text : List Char) : Option (Value × List Char) :=
  match dropMoment? text, readFloat text with
  | some rest, _ => some (.moment, rest)
  | none, some (number, rest) => some (.float number, rest)
  | none, none => (readInteger text).map fun (n, rest) => (.integer n, rest)

def readScalar (text : List Char) : Option (Value × List Char) :=
  match text with
  | 't' :: 'r' :: 'u' :: 'e' :: rest => some (.boolean true, rest)
  | 'f' :: 'a' :: 'l' :: 's' :: 'e' :: rest => some (.boolean false, rest)
  | '"' :: _ | '\'' :: _ => (readText text).map fun (s, rest) => (.text s, rest)
  | _ => readNumber text

/-- A value with at most `depth` arrays and tables around one another. -/
def readValue : Nat → Reader Value
  | 0, text => readScalar text
  | depth + 1, text =>
    match text with
    | '[' :: rest => readArray (readValue depth) rest
    | '\x7b' :: rest => readInlineTable (readValue depth) rest
    | _ => readScalar text

inductive Statement
  | pair (key : Key) (value : Value)
  | table (key : Key)
  | element (key : Key)
deriving Repr

def readHeader (text : List Char) : Option (Key × List Char) := do
  let (key, rest) ← readKey text
  return (key, ← expect ']' rest)

def readStatement (text : List Char) : Option (Statement × List Char) := do
  let (statement, rest) ← match text with
    | '[' :: '[' :: rest => do
      let (key, rest) ← readHeader rest
      pure (Statement.element key, ← expect ']' rest)
    | '[' :: rest => do
      let (key, rest) ← readHeader rest
      pure (Statement.table key, rest)
    | _ => do
      let ((key, value), rest) ← readPair (readValue maxDepth) text
      pure (Statement.pair key value, rest)
  return (statement, ← dropLineEnd? rest)

/-- The statements of a text, at most `limit` lines, each with the text it begins. -/
def readStatements : Nat → List Char → Option (List (List Char × Statement))
  | 0, _ => none
  | limit + 1, text =>
    match skipBlanks text with
    | [] => some []
    | text =>
      match dropNewline? text with
      | some rest => readStatements limit rest
      | none =>
        if text.head? == some '#' then do readStatements limit (← dropLineEnd? text)
        else do
          let (statement, rest) ← readStatement text
          return (text, statement) :: (← readStatements limit rest)

structure Draft where
  root : Entries := []
  opened : List String := []
deriving Repr

def Draft.add (draft : Draft) : Statement → Option Draft
  | .pair key value => do
    let root ← changeAt false (place key value) draft.opened .header draft.root
    return { draft with root := root }
  | .table key => do
    return { root := ← openTable key draft.root, opened := key.path ++ [key.name] }
  | .element key => do
    return { root := ← openElement key draft.root, opened := key.path ++ [key.name] }

/-- The statements of a text. A byte order mark at the front is ignored. -/
def statements? (text : String) : Option (List (List Char × Statement)) :=
  let chars := match text.toList with
    | '\ufeff' :: rest => rest
    | chars => chars
  readStatements (chars.length + 1) chars

def parseDocument (text : String) : Option Entries := do
  let draft ← (← statements? text).foldlM (fun draft s => draft.add s.2) ({} : Draft)
  return draft.root

end RebasingProxy.Toml
