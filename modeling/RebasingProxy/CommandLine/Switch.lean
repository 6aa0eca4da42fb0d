/-! # Switches

The switches of the command line: their names, their values, the environment variables
that stand in for them, and what the help says about them.
-/
namespace RebasingProxy

inductive Switch
  | config | bindAddress | bindPath | backendHost | backendPath | backendScheme
  | replaceHost | keepHost | context | rebasedType | timeout | maxLine | help | version
deriving DecidableEq, Repr

namespace Switch

def all : List Switch :=
  [config, bindAddress, bindPath, backendHost, backendPath, backendScheme, replaceHost,
   keepHost, context, rebasedType, timeout, maxLine, help, version]

def long : Switch → String
  | config => "config"
  | bindAddress => "ba"
  | bindPath => "bp"
  | backendHost => "ph"
  | backendPath => "pp"
  | backendScheme => "ps"
  | replaceHost => "rewrite-host"
  | keepHost => "no-rewrite-host"
  | context => "ctx"
  | rebasedType => "rewrite-type"
  | timeout => "timeout"
  | maxLine => "max-line-bytes"
  | help => "help"
  | version => "version"

def short? : Switch → Option Char
  | config => some 'c'
  | replaceHost => some 'r'
  | help => some 'h'
  | version => some 'V'
  | _ => none

def placeholder? : Switch → Option String
  | config => some "CONFIG"
  | bindAddress => some "BIND_ADDR"
  | bindPath => some "BIND_PATH"
  | backendHost => some "PROXY_HOST"
  | backendPath => some "PROXY_PATH"
  | backendScheme => some "PROXY_SCHEME"
  | context => some "CONTEXT"
  | rebasedType => some "REWRITE_TYPES"
  | timeout => some "TIMEOUT_SECS"
  | maxLine => some "MAX_LINE_BYTES"
  | replaceHost | keepHost | help | version => none

def takesValue (switch : Switch) : Bool := switch.placeholder?.isSome

/-- The environment variable that counts when the switch is not given. -/
def environmentName? : Switch → Option String
  | bindAddress => some "BIND_ADDR"
  | bindPath => some "BIND_PATH"
  | backendHost => some "PROXY_ADDR"
  | backendPath => some "PROXY_PATH"
  | backendScheme => some "PROXY_SCHEME"
  | context => some "PROXY_LDCONTEXT"
  | _ => none

def description : Switch → String
  | config => "TOML config file"
  | bindAddress => "Bind address [ip:port]; an empty ip listens on all interfaces"
  | bindPath => "Bind path; incoming requests to this path will be proxied"
  | backendHost => "Proxy host; requests will be proxied to this host"
  | backendPath => "Proxy path; requests will be proxied to this path"
  | backendScheme => "Proxy scheme (http or https)"
  | replaceHost => "Rewrite the Host header to the proxy host"
  | keepHost => "Keep the client's Host header even when the config file rewrites it"
  | context => "JSON-LD context location, advertised in a Link header on success"
  | rebasedType => "Content-Type whose body is rewritten (repeatable, replaces the defaults)"
  | timeout => "Seconds to wait for upstream response headers"
  | maxLine => "Longest partial line held back before it is flushed"
  | help => "Print help"
  | version => "Print version"

def dashed (switch : Switch) : String := "--" ++ switch.long

def place (switch : Switch) : String :=
  switch.placeholder?.elim "" fun name => " <" ++ name ++ ">"

def shown (switch : Switch) : String := switch.dashed ++ switch.place

def isRepeatable (switch : Switch) : Bool := switch == rebasedType

def undoes? : Switch → Option Switch
  | replaceHost => some keepHost
  | keepHost => some replaceHost
  | _ => none

def isSetting (switch : Switch) : Bool := switch != help && switch != version

def ofLong? (name : String) : Option Switch := all.find? fun switch => switch.long == name

def ofShort? (c : Char) : Option Switch := all.find? fun switch => switch.short? == some c

end Switch

end RebasingProxy
