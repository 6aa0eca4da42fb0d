import RebasingProxy.Config

/-! # Layers of settings

A source of settings sets some of them and leaves the others open. Layers are laid over
one another; what none of them sets has its built-in value.
-/
namespace RebasingProxy

structure Layer where
  bindAddress : Option String := none
  bindPath : Option String := none
  backendHost : Option String := none
  backendPath : Option String := none
  backendScheme : Option String := none
  replaceHost : Option Bool := none
  contextUri : Option String := none
  rebasedTypes : Option ContentTypes := none
  timeoutSeconds : Option Nat := none
  maxLine : Option Nat := none
deriving DecidableEq

namespace Layer

def orElse (upper lower : Layer) : Layer where
  bindAddress := upper.bindAddress <|> lower.bindAddress
  bindPath := upper.bindPath <|> lower.bindPath
  backendHost := upper.backendHost <|> lower.backendHost
  backendPath := upper.backendPath <|> lower.backendPath
  backendScheme := upper.backendScheme <|> lower.backendScheme
  replaceHost := upper.replaceHost <|> lower.replaceHost
  contextUri := upper.contextUri <|> lower.contextUri
  rebasedTypes := upper.rebasedTypes <|> lower.rebasedTypes
  timeoutSeconds := upper.timeoutSeconds <|> lower.timeoutSeconds
  maxLine := upper.maxLine <|> lower.maxLine

def complete (layer : Layer) : Config :=
  let builtIn : Config := {}
  { bindAddress := layer.bindAddress.getD builtIn.bindAddress
    bindPath := layer.bindPath.getD builtIn.bindPath
    backendHost := layer.backendHost.getD builtIn.backendHost
    backendPath := layer.backendPath.getD builtIn.backendPath
    backendScheme := layer.backendScheme.getD builtIn.backendScheme
    replaceHost := layer.replaceHost.getD builtIn.replaceHost
    contextUri := layer.contextUri.getD builtIn.contextUri
    rebasedTypes := layer.rebasedTypes.getD builtIn.rebasedTypes
    timeout := (layer.timeoutSeconds.map Duration.ofSeconds).getD builtIn.timeout
    maxLine := layer.maxLine.getD builtIn.maxLine }

/-- The environment variables that set something. An empty one counts as set. -/
def ofEnvironment (lookup : String → Option String) : Layer where
  bindAddress := lookup "BIND_ADDR"
  bindPath := lookup "BIND_PATH"
  backendHost := lookup "PROXY_ADDR"
  backendPath := lookup "PROXY_PATH"
  backendScheme := lookup "PROXY_SCHEME"
  contextUri := lookup "PROXY_LDCONTEXT"

end Layer

end RebasingProxy
