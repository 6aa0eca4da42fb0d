import RebasingProxy.Text.Visible

/-! # Quoted text

A text between double quotes, on one line and visible throughout: a quote and a
backslash get a backslash in front, the usual controls get a letter, and every other
character without a glyph of its own is shown by number.
-/
namespace RebasingProxy.Text

def numberedChar (c : Char) : List Char :=
  "\\u\x7b".toList ++ Nat.toDigits 16 c.toNat ++ "\x7d".toList

def quotedChar (c : Char) : List Char :=
  match c with
  | '\x00' => ['\\', '0']
  | '\t' => ['\\', 't']
  | '\n' => ['\\', 'n']
  | '\r' => ['\\', 'r']
  | '"' => ['\\', '"']
  | '\\' => ['\\', '\\']
  | c => if isVisible c then [c] else numberedChar c

def quoted (text : String) : String :=
  String.ofList ('"' :: (text.toList.flatMap quotedChar ++ ['"']))

end RebasingProxy.Text
