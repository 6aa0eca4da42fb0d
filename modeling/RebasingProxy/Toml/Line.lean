/-! # Lines, blanks and comments

The parts of a TOML text between the values. A reader takes something off the front of
a text and returns the rest.
-/
namespace RebasingProxy.Toml

abbrev Reader (α : Type) := List Char → Option (α × List Char)

def isBlank (c : Char) : Bool := c == ' ' || c == '\t'

def isTextChar (c : Char) : Bool := c == '\t' || (0x20 ≤ c.toNat && c.toNat != 0x7f)

def skipBlanks (text : List Char) : List Char := text.dropWhile isBlank

def dropNewline? : List Char → Option (List Char)
  | '\n' :: rest => some rest
  | '\r' :: '\n' :: rest => some rest
  | _ => none

def skipComment : List Char → List Char
  | '#' :: rest => rest.dropWhile isTextChar
  | text => text

def dropLineEnd? (text : List Char) : Option (List Char) :=
  match skipComment (skipBlanks text) with
  | [] => some []
  | rest => dropNewline? rest

/-- Skips blanks, ends of lines and comments between the elements of an array. -/
def skipFiller (inComment : Bool) : List Char → List Char
  | [] => []
  | '\n' :: rest => skipFiller false rest
  | '\r' :: '\n' :: rest => skipFiller false rest
  | c :: rest =>
    if inComment then if isTextChar c then skipFiller true rest else c :: rest
    else if c == '#' then skipFiller true rest
    else if isBlank c then skipFiller false rest
    else c :: rest

end RebasingProxy.Toml
