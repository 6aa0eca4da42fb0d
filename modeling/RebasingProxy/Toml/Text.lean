import RebasingProxy.Toml.Line

/-! # Texts and keys

Texts between quotes, on one line or on several, with or without escapes, and the keys
built from them.
-/
namespace RebasingProxy.Toml

def hexValue? (c : Char) : Option Nat :=
  if c.isDigit then some (c.toNat - '0'.toNat)
  else if 'a' ≤ c.toLower && c.toLower ≤ 'f' then some (c.toLower.toNat - 'a'.toNat + 10)
  else none

/-- A code point in the given number of hexadecimal digits; surrogates are no characters. -/
def readCodePoint (count : Nat) (text : List Char) : Option (Char × List Char) := do
  let digits ← (text.take count).mapM hexValue?
  if digits.length < count then none
  let code := digits.foldl (fun acc d => acc * 16 + d) 0
  if code.isValidChar then some (Char.ofNat code, text.drop count) else none

def readEscape : Reader Char
  | 'b' :: rest => some ('\x08', rest)
  | 't' :: rest => some ('\t', rest)
  | 'n' :: rest => some ('\n', rest)
  | 'f' :: rest => some ('\x0c', rest)
  | 'r' :: rest => some ('\r', rest)
  | '"' :: rest => some ('"', rest)
  | '\\' :: rest => some ('\\', rest)
  | 'u' :: rest => readCodePoint 4 rest
  | 'U' :: rest => readCodePoint 8 rest
  | _ => none

theorem length_of_readCodePoint {count : Nat} {text rest : List Char} {c : Char}
    (h : readCodePoint count text = some (c, rest)) : rest.length ≤ text.length := by
  simp only [readCodePoint, Option.bind_eq_bind, Option.bind_eq_some_iff] at h
  obtain ⟨digits, _, h⟩ := h
  split at h
  · simp at h
  · split at h <;> simp at h
    rw [← h.2]
    simp

theorem length_of_readEscape {text rest : List Char} {c : Char}
    (h : readEscape text = some (c, rest)) : rest.length < text.length := by
  unfold readEscape at h
  split at h
  case h_8 => exact Nat.lt_succ_of_le (length_of_readCodePoint h)
  case h_9 => exact Nat.lt_succ_of_le (length_of_readCodePoint h)
  case h_10 => simp at h
  all_goals
    simp only [Option.some.injEq, Prod.mk.injEq] at h
    simp [h.2]

/-- A text on one line up to its closing quote; `taken` holds its characters so far, last
one first. -/
def readBasic (taken text : List Char) : Option (String × List Char) :=
  match text with
  | [] => none
  | '"' :: rest => some (String.ofList taken.reverse, rest)
  | '\\' :: rest =>
    match _h : readEscape rest with
    | some (c, after) => readBasic (c :: taken) after
    | none => none
  | c :: rest => if isTextChar c then readBasic (c :: taken) rest else none
termination_by text.length
decreasing_by
  · have := length_of_readEscape _h
    simp only [List.length_cons]
    omega
  · simp

def atLineEnd (text : List Char) : Bool := (dropNewline? (skipBlanks text)).isSome

/-- A text over several lines up to three quotes, before which up to two more may stand.
While `trimming`, which a backslash at the end of a line begins, white space is skipped. -/
def readMultiBasic (trimming : Bool) (taken text : List Char) :
    Option (String × List Char) :=
  match text with
  | [] => none
  | '"' :: '"' :: '"' :: '"' :: '"' :: rest =>
    some (String.ofList ('"' :: '"' :: taken).reverse, rest)
  | '"' :: '"' :: '"' :: '"' :: rest => some (String.ofList ('"' :: taken).reverse, rest)
  | '"' :: '"' :: '"' :: rest => some (String.ofList taken.reverse, rest)
  | '\\' :: rest =>
    if atLineEnd rest then readMultiBasic true taken rest
    else
      match _h : readEscape rest with
      | some (c, after) => readMultiBasic false (c :: taken) after
      | none => none
  | '\n' :: rest => readMultiBasic trimming (if trimming then taken else '\n' :: taken) rest
  | '\r' :: '\n' :: rest =>
    readMultiBasic trimming (if trimming then taken else '\n' :: taken) rest
  | c :: rest =>
    if !isTextChar c then none
    else if trimming && isBlank c then readMultiBasic true taken rest
    else readMultiBasic false (c :: taken) rest
termination_by text.length
decreasing_by
  · simp
  · have := length_of_readEscape _h
    simp only [List.length_cons]
    omega
  · simp
  · simp only [List.length_cons]
    omega
  · simp
  · simp

def readLiteral (text : List Char) : Option (String × List Char) :=
  let inside := text.takeWhile fun c => isTextChar c && c != '\''
  match text.drop inside.length with
  | '\'' :: rest => some (String.ofList inside, rest)
  | _ => none

def readMultiLiteral (taken : List Char) : List Char → Option (String × List Char)
  | [] => none
  | '\'' :: '\'' :: '\'' :: '\'' :: '\'' :: rest =>
    some (String.ofList ('\'' :: '\'' :: taken).reverse, rest)
  | '\'' :: '\'' :: '\'' :: '\'' :: rest => some (String.ofList ('\'' :: taken).reverse, rest)
  | '\'' :: '\'' :: '\'' :: rest => some (String.ofList taken.reverse, rest)
  | '\n' :: rest => readMultiLiteral ('\n' :: taken) rest
  | '\r' :: '\n' :: rest => readMultiLiteral ('\n' :: taken) rest
  | c :: rest => if isTextChar c then readMultiLiteral (c :: taken) rest else none

/-- A line end directly behind the opening quotes does not belong to the text. -/
def skipFirstNewline (text : List Char) : List Char := (dropNewline? text).getD text

def readText : Reader String
  | '"' :: '"' :: '"' :: rest => readMultiBasic false [] (skipFirstNewline rest)
  | '"' :: rest => readBasic [] rest
  | '\'' :: '\'' :: '\'' :: rest => readMultiLiteral [] (skipFirstNewline rest)
  | '\'' :: rest => readLiteral rest
  | _ => none

def isBareKeyChar (c : Char) : Bool := c.isAlphanum || c == '_' || c == '-'

def readKeyPart : Reader String
  | '"' :: rest => readBasic [] rest
  | '\'' :: rest => readLiteral rest
  | text =>
    let key := text.takeWhile isBareKeyChar
    if key.isEmpty then none else some (String.ofList key, text.drop key.length)

structure Key where
  path : List String
  name : String
deriving DecidableEq, Repr

def readKeyWithin : Nat → Reader Key
  | 0, _ => none
  | limit + 1, text => do
    let (part, rest) ← readKeyPart (skipBlanks text)
    match skipBlanks rest with
    | '.' :: rest =>
      let (key, rest) ← readKeyWithin limit rest
      return ({ path := part :: key.path, name := key.name }, rest)
    | rest => return ({ path := [], name := part }, rest)

def maxDepth : Nat := 79

def readKey : Reader Key := readKeyWithin maxDepth

end RebasingProxy.Toml
