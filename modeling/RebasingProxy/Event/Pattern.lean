import RebasingProxy.Numeral

/-! # Patterns

Which texts can be matched against the value of a field: numbers, and regular expressions
whose groups and classes are closed and whose repetitions have something to repeat.
-/
namespace RebasingProxy.Pattern

/-- A mark, or a letter for a single character or an end of the text. Letters for classes
of characters are not known. -/
def isEscapable (c : Char) : Bool :=
  (c.toNat < 0x80 && !c.isAlphanum && c != '<' && c != '>') || "aftnrvxuUAz".toList.contains c

def opensGroup (c : Char) : Bool := ":P<imsUuxR-".toList.contains c

/-- How far an expression has been read: the groups and the classes that are open, whether
the last class has no member yet, and whether what was read can be repeated. -/
structure Reading where
  groups : Nat := 0
  classes : Nat := 0
  fresh : Bool := false
  repeatable : Bool := false

namespace Reading

/-- One more character of a class. A bracket that would close an empty class is a member. -/
def member (reading : Reading) (c : Char) : Reading :=
  match c with
  | '[' => { reading with classes := reading.classes + 1, fresh := true }
  | ']' =>
    if reading.fresh then { reading with fresh := false }
    else { reading with classes := reading.classes - 1, repeatable := true }
  | '^' => reading
  | _ => { reading with fresh := false }

end Reading

def accepts (reading : Reading) : List Char → Bool
  | [] => reading.groups == 0 && reading.classes == 0
  | '\\' :: c :: rest =>
    isEscapable c && accepts { reading with fresh := false, repeatable := true } rest
  | ['\\'] => false
  | '(' :: '?' :: c :: rest =>
    if reading.classes > 0 then
      accepts { reading with fresh := false } (c :: rest)
    else opensGroup c && accepts { reading with groups := reading.groups + 1 } rest
  | c :: rest =>
    if reading.classes > 0 then accepts (reading.member c) rest
    else
      match c with
      | '[' => accepts (reading.member c) rest
      | '(' => accepts { reading with groups := reading.groups + 1, repeatable := false } rest
      | ')' =>
        reading.groups > 0
          && accepts { reading with groups := reading.groups - 1, repeatable := true } rest
      | '|' => accepts { reading with repeatable := false } rest
      | '*' | '+' | '?' => reading.repeatable && accepts reading rest
      | '\x7b' => false
      | _ => accepts { reading with repeatable := true } rest

def isPattern (text : List Char) : Bool :=
  match Numeral.read (String.ofList text) with
  | .ok _ => true
  | .error _ => accepts {} text

end RebasingProxy.Pattern
