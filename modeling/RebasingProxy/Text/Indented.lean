/-! # Indented text

A text within another one, all lines but the first indented.
-/
namespace RebasingProxy.Text

def indented (indent text : String) : String :=
  String.join (text.toList.map fun c => if c == '\n' then "\n" ++ indent else String.ofList [c])

end RebasingProxy.Text
