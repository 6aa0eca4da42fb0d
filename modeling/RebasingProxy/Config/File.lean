import RebasingProxy.Config.Layer
import RebasingProxy.Toml.Document

/-! # Configuration files

A configuration file is a TOML document whose keys set a layer. Its keys are examined in
the order of the document, and the first one that is unknown or has a value of the wrong
type is reported.
-/
namespace RebasingProxy
open Toml

namespace FileFault

def found : Value → String
  | .text s => "string " ++ Text.quoted s
  | .integer n => "integer " ++ ticked (toString n)
  | .float x => "floating point " ++ ticked x.text
  | .boolean b => "boolean " ++ ticked (if b then "true" else "false")
  | .array _ | .tables _ => "sequence"
  | .moment | .table .. => "map"

end FileFault

namespace Layer

def textOf : Value → Except FileFault String
  | .text s => .ok s
  | other => .error (.wrongType (FileFault.found other) "a string")

def booleanOf : Value → Except FileFault Bool
  | .boolean b => .ok b
  | other => .error (.wrongType (FileFault.found other) "a boolean")

/-- A number that is not negative; `expected` names its format. -/
def naturalOf (expected : String) : Value → Except FileFault Nat
  | .integer n => if 0 ≤ n then .ok n.toNat else .error (.outOfRange n expected)
  | other => .error (.wrongType (FileFault.found other) expected)

def textsOf : Value → Except FileFault (List String)
  | .array items => items.mapM textOf
  | .tables elements => elements.mapM fun entries => textOf (.table .header entries)
  | other => .error (.wrongType (FileFault.found other) "a sequence")

def setKey (layer : Layer) (key : String) (value : Value) : Except FileFault Layer :=
  match key with
  | "bind_addr" => do return { layer with bindAddress := some (← textOf value) }
  | "bind_path" => do return { layer with bindPath := some (← textOf value) }
  | "proxy_host" => do return { layer with backendHost := some (← textOf value) }
  | "proxy_path" => do return { layer with backendPath := some (← textOf value) }
  | "proxy_scheme" => do return { layer with backendScheme := some (← textOf value) }
  | "rewrite_host" => do return { layer with replaceHost := some (← booleanOf value) }
  | "context" => do return { layer with contextUri := some (← textOf value) }
  | "rewrite_types" => do
    return { layer with rebasedTypes := some (.ofList (← textsOf value)) }
  | "upstream_timeout_secs" => do
    return { layer with timeoutSeconds := some (← naturalOf "u64" value) }
  | "max_line_bytes" => do return { layer with maxLine := some (← naturalOf "usize" value) }
  | _ => .error (.unknownKey key)

def ofEntries (entries : Entries) : Except FileFault Layer :=
  entries.foldlM (fun layer entry => layer.setKey entry.1 entry.2) {}

def ofFile (text : String) : Except FileFault Layer :=
  match parseDocument text with
  | none => .error .notToml
  | some entries => ofEntries entries

end Layer

end RebasingProxy
