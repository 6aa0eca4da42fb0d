import RebasingProxy.Backend
import RebasingProxy.Config
import RebasingProxy.Failure
import RebasingProxy.Headers.Request
import RebasingProxy.Headers.Response
import RebasingProxy.Path

/-! # Exchanges

One request through the proxy. A path under the bind path is routed to the backend; a
path that only lacks the bind path's last slash is redirected there; every other one is
refused. The backend's answer is passed on with its fields put in order, and its body is
rebased if its content type is one of the configured ones and no length is declared.
-/
namespace RebasingProxy

structure Request where
  method : String := "GET"
  uri : Uri
  headers : Headers := {}
  body : Bytes := []
  client : Option IpAddress := none
deriving DecidableEq, Repr

structure Proxy where
  config : Config
  bases : Bases
  link : Option Bytes
deriving DecidableEq

namespace Proxy

def ofConfig (config : Config) : Except ConfigError Proxy := do
  let link ← config.link
  return { config := config, bases := config.bases, link := link }

end Proxy

inductive Outcome
  | redirected (location : String)
  | failed (failure : Failure)
  | proxied (status : Status) (headers : Headers) (body : BodyStream)
deriving DecidableEq, Repr

namespace Outcome

def reply : Outcome → Reply
  | redirected location =>
    { status := .movedPermanently, headers := .ofList [("location", Bytes.ofText location)] }
  | failed failure => failure.reply
  | proxied status headers body =>
    { status := status, headers := headers, body := .streamed body }

end Outcome

structure Exchange where
  outcome : Outcome
  received : Option Forwarded := none
  events : List Event := []
deriving DecidableEq, Repr

namespace Exchange

/-- The socket number is left out where the scheme implies it. -/
def hostField (authority : List Char) : String :=
  let host := String.ofList (Authority.host authority)
  match Authority.socketNumber? authority with
  | none | some 80 => host
  | some number => host ++ ":" ++ toString number

/-- The request as it goes over the connection, with the host and the length filled in
where they are missing. -/
def onConnection (request : Request) : Forwarded :=
  let headers := request.headers
  let headers :=
    if headers.contains "host" then headers
    else headers.append "host"
      (Bytes.ofText (hostField (request.uri.authority.getD "").toList))
  let headers :=
    if request.body.isEmpty || headers.contains "content-length" then headers
    else headers.append "content-length" (Bytes.ofText (toString request.body.length))
  { method := request.method, target := request.uri.pathAndQuery
    headers := headers, body := request.body }

/-- Only plain `http` can be spoken, so there is no connection for any other scheme. -/
def connecting (backend : Backend) (uri : Uri) : Eventual Bool :=
  if uri.scheme == some "http" then backend.connection else .after 0 false

def resultOf : Service → Except TransportFault Response
  | .responds response => .ok response
  | .breaksOff => .error .send

def sending (backend : Backend) (request : Request) :
    Eventual (Except TransportFault Response) :=
  (connecting backend request.uri).bind fun connected =>
    if connected then (backend.serve (onConnection request)).map resultOf
    else .after 0 (.error .connect)

def received? (backend : Backend) (limit : Duration) (request : Request) : Option Forwarded :=
  if (connecting backend request.uri).within limit == some true then some (onConnection request)
  else none

def pass (proxy : Proxy) (response : Response) : Outcome × List Event :=
  let (headers, events) := response.headers.decorated response.status proxy.link
  let headers := headers.withoutHopByHop
  let contentType := headers.contentType
  let rebased := proxy.config.rebases contentType && !headers.contains "content-length"
  let body :=
    if rebased then BodyStream.rebasing response.body proxy.bases proxy.config.maxLine
    else BodyStream.passThrough response.body
  (.proxied response.status headers body,
    events ++ [.responded response.status contentType rebased])

/-- Sends a request that is addressed to the backend and waits for the answer. The limit holds for
the connection and the answer together. -/
def roundTrip (proxy : Proxy) (backend : Backend) (request : Request) : Exchange :=
  let uri := request.uri.text
  let limit := proxy.config.timeout
  let forwarding := Event.forwarding request.method uri
  let received := received? backend limit request
  match (sending backend request).within limit with
  | some (.ok response) =>
    let (outcome, events) := pass proxy response
    { outcome := outcome, received := received, events := forwarding :: events }
  | some (.error fault) =>
    { outcome := .failed (.transport fault), received := received
      events := [forwarding, .exchangeFailed uri fault.message] }
  | none =>
    { outcome := .failed (.timedOut limit), received := received
      events := [forwarding, .exchangeTimedOut uri limit] }

def target (config : Config) (uri : Uri) : String :=
  config.backendScheme ++ "://" ++ config.backendHost
    ++ Path.rebased uri.path config.bindPath config.backendPath ++ Uri.queryText uri.query

def turnAway (config : Config) (uri : Uri) : Exchange :=
  if Path.endsInSlash config.bindPath && uri.path ++ "/" == config.bindPath then
    let location := config.bindPath ++ Uri.queryText uri.query
    { outcome := .redirected location, events := [.redirecting location] }
  else { outcome := .failed (.notRouted uri.path) }

def prepared (config : Config) (request : Request) (uri : Uri) : Request :=
  { request with
    uri := uri
    headers := request.headers.forRequest request.client
      (if config.replaceHost then some config.backendHost else none) }

def run (proxy : Proxy) (backend : Backend) (request : Request) : Exchange :=
  let config := proxy.config
  if Path.isBoundBy request.uri.path config.bindPath then
    let target := target config request.uri
    let routed := Event.routed request.uri.text target
    match Uri.parse target with
    | .error error =>
      { outcome := .failed (.invalidTarget target error), events := [routed] }
    | .ok uri =>
      let exchange := roundTrip proxy backend (prepared config request uri)
      { exchange with events := routed :: exchange.events }
  else turnAway config request.uri

end Exchange

end RebasingProxy
