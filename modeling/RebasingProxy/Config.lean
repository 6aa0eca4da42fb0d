import RebasingProxy.Bases
import RebasingProxy.Config.ContentTypes
import RebasingProxy.Config.Error
import RebasingProxy.Event
import RebasingProxy.Headers

/-! # Configuration

The resolved settings of a proxy, the conditions on them, and what follows from them:
the address to listen on, the two bases, and the link that advertises a context.
-/
namespace RebasingProxy

structure Config where
  bindAddress : String := ":8090"
  bindPath : String := "/"
  backendHost : String := "127.0.0.1:8080"
  backendPath : String := "/"
  backendScheme : String := "http"
  replaceHost : Bool := false
  /-- The empty text advertises no context. -/
  contextUri : String := ""
  rebasedTypes : ContentTypes := .ofList ["text/turtle", "text/html"]
  timeout : Duration := .ofSeconds 30
  maxLine : Nat := 65536
deriving DecidableEq

namespace Config

def linkText (context : String) : String :=
  "<" ++ context
    ++ ">; rel=\"http://www.w3.org/ns/json-ld#context\"; type=\"application/ld+json\""

def link (config : Config) : Except ConfigError (Option Bytes) :=
  if config.contextUri.isEmpty then .ok none
  else
    let value := Bytes.ofText (linkText config.contextUri)
    if isLegalHeaderValue value then .ok (some value)
    else .error (.illegalContext config.contextUri)

/-- Reports the first condition that does not hold. -/
def validate (config : Config) : Except ConfigError Unit := do
  if config.backendScheme != "http" && config.backendScheme != "https" then
    throw (.unsupportedScheme config.backendScheme)
  if config.bindPath.toList.head? != some '/' then throw (.relativeBindPath config.bindPath)
  if config.rebasedTypes.isEmpty then throw .noRebasedTypes
  if config.timeout.isZero then throw .zeroTimeout
  config.link.map fun _ => ()

/-- Without a host every interface is meant. -/
def listenAddress (config : Config) : String :=
  if config.bindAddress.toList.head? == some ':' then "0.0.0.0" ++ config.bindAddress
  else config.bindAddress

/-- The backend puts its path behind the bind address, and clients see the bind path
there. -/
def bases (config : Config) : Bases where
  internal := Bytes.ofText (config.bindAddress ++ config.backendPath)
  external := Bytes.ofText (config.bindAddress ++ config.bindPath)

def rebases (config : Config) (contentType : String) : Bool :=
  config.rebasedTypes.contains contentType

def events (config : Config) : List Event :=
  [.listening config.bindAddress config.bindPath,
   .proxying (config.backendScheme ++ "://" ++ config.backendHost) config.backendPath
     config.replaceHost]
  ++ (if config.contextUri.isEmpty then [] else [.advertising config.contextUri])
  ++ [.rebasingBodies config.rebasedTypes.names]

end Config

end RebasingProxy
