import RebasingProxy.Text.Quoted
import RebasingProxy.Toml.Excerpt

/-! # Configuration errors

What can be wrong with a configuration, and the texts that report it.
-/
namespace RebasingProxy

/-- Why a file cannot be read as text. The system has numbers for its faults. -/
inductive ReadFault
  | system (number : Nat)
  | notUtf8
  | other (reason : String)
deriving DecidableEq, Repr

namespace ReadFault

def notFound : ReadFault := system 2
def isDirectory : ReadFault := system 21

def systemReasons : List (Nat × String) :=
  [(1, "Operation not permitted"), (2, "No such file or directory"), (4, "Interrupted system call"),
   (5, "Input/output error"), (6, "No such device or address"), (9, "Bad file descriptor"),
   (11, "Resource temporarily unavailable"), (12, "Cannot allocate memory"),
   (13, "Permission denied"), (14, "Bad address"), (16, "Device or resource busy"),
   (19, "No such device"), (20, "Not a directory"), (21, "Is a directory"),
   (22, "Invalid argument"), (23, "Too many open files in system"), (24, "Too many open files"),
   (26, "Text file busy"), (27, "File too large"), (30, "Read-only file system"),
   (36, "File name too long"), (40, "Too many levels of symbolic links"),
   (75, "Value too large for defined data type")]

def message : ReadFault → String
  | system number =>
    (systemReasons.lookup number).getD ("Unknown error " ++ toString number)
      ++ " (os error " ++ toString number ++ ")"
  | notUtf8 => "stream did not contain valid UTF-8"
  | other reason => reason

end ReadFault

def fileKeys : List String :=
  ["bind_addr", "bind_path", "proxy_host", "proxy_path", "proxy_scheme", "rewrite_host",
   "context", "rewrite_types", "upstream_timeout_secs", "max_line_bytes"]

inductive FileFault
  | notToml
  | unknownKey (key : String)
  | wrongType (found expected : String)
  | outOfRange (number : Int) (expected : String)
deriving DecidableEq, Repr

namespace FileFault

def ticked (text : String) : String := "`" ++ text ++ "`"

def message : FileFault → String
  | notToml => "TOML parse error"
  | unknownKey key =>
    "unknown field " ++ ticked key ++ ", expected one of "
      ++ String.intercalate ", " (fileKeys.map ticked)
  | wrongType found expected => "invalid type: " ++ found ++ ", expected " ++ expected
  | outOfRange number expected =>
    "invalid value: integer " ++ ticked (toString number) ++ ", expected " ++ expected

def report (fault : FileFault) (excerpt : Option Toml.Excerpt) : String :=
  excerpt.elim fault.message fun excerpt => excerpt.report fault.message

end FileFault

inductive ConfigError
  | unreadable (path : String) (fault : ReadFault)
  | malformed (path : String) (fault : FileFault) (excerpt : Option Toml.Excerpt)
  | unsupportedScheme (scheme : String)
  | relativeBindPath (path : String)
  | illegalContext (context : String)
  | noRebasedTypes
  | zeroTimeout
deriving DecidableEq, Repr

namespace ConfigError

def message : ConfigError → String
  | unreadable path fault => "failed to read config file " ++ path ++ ": " ++ fault.message
  | malformed path fault excerpt =>
    "failed to parse config file " ++ path ++ ": " ++ fault.report excerpt
  | unsupportedScheme scheme =>
    "unsupported upstream scheme " ++ Text.quoted scheme ++ " (expected http or https)"
  | relativeBindPath path => "bind path " ++ Text.quoted path ++ " must start with '/'"
  | illegalContext context =>
    "JSON-LD context " ++ Text.quoted context ++ " cannot be used in a Link header"
  | noRebasedTypes => "the rewrite content-type list is empty"
  | zeroTimeout => "upstream timeout must be greater than zero"

def cause? : ConfigError → Option String
  | unreadable _ fault => some fault.message
  | malformed _ fault excerpt => some (fault.report excerpt)
  | _ => none

end ConfigError

end RebasingProxy
