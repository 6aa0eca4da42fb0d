import RebasingProxy.Binary64

/-! # TOML values

The values of a TOML document. A table remembers how it came about, since that decides
what may still be added to it.
-/
namespace RebasingProxy.Toml

/-- How a table came about: written between braces and complete, opened by a header of its
own, only named on the way to another header, or made by a dotted key. -/
inductive TableKind
  | closed | header | implied | dotted
deriving DecidableEq, Repr

inductive Value
  | text (s : String)
  | integer (n : Int)
  | float (x : Binary64)
  | boolean (b : Bool)
  | moment
  | array (items : List Value)
  | table (kind : TableKind) (entries : List (String × Value))
  | tables (elements : List (List (String × Value)))
deriving Repr

abbrev Entries := List (String × Value)

end RebasingProxy.Toml
