/-! # Excerpts

An excerpt shows a part of a text: where it begins, its first line, and marks below it.
-/
namespace RebasingProxy.Toml

structure Excerpt where
  line : Nat
  column : Nat
  content : String
  /-- The length of the part in bytes. -/
  width : Nat
deriving DecidableEq, Repr

namespace Excerpt

def between (text start stop : List Char) : Excerpt :=
  let before := text.take (text.length - start.length)
  let onLine := (before.reverse.takeWhile (· != '\n')).reverse
  { line := before.count '\n' + 1
    column := onLine.length + 1
    content := String.ofList (onLine ++ start.takeWhile (· != '\n'))
    width := (String.ofList (start.take (start.length - stop.length))).utf8ByteSize }

/-- A message below the excerpt. At least one mark is set, and no more than the line is
long. -/
def report (excerpt : Excerpt) (message : String) : String :=
  let number := toString excerpt.line
  let margin := String.ofList (List.replicate (number.length + 1) ' ') ++ "|"
  let marks := max 1 (min excerpt.width excerpt.content.utf8ByteSize)
  "TOML parse error at line " ++ number ++ ", column " ++ toString excerpt.column ++ "\n"
    ++ margin ++ "\n"
    ++ number ++ " | " ++ excerpt.content ++ "\n"
    ++ margin ++ String.ofList (List.replicate excerpt.column ' ' ++ List.replicate marks '^')
    ++ "\n" ++ message ++ "\n"

end Excerpt

end RebasingProxy.Toml
