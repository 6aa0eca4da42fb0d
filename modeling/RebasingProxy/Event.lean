import RebasingProxy.Duration
import RebasingProxy.Status
import RebasingProxy.Text.Quoted

/-! # Log events

What the proxy reports while it works. Each event has a level, a target that names the
part of the proxy it comes from, a message, and named fields in a fixed order.
-/
namespace RebasingProxy

inductive Level
  | error | warn | info | debug | trace
deriving DecidableEq, Repr

namespace Level

def name : Level → String
  | error => "ERROR"
  | warn => "WARN"
  | info => "INFO"
  | debug => "DEBUG"
  | trace => "TRACE"

/-- Higher numbers are more talkative. -/
def verbosity : Level → Nat
  | error => 1
  | warn => 2
  | info => 3
  | debug => 4
  | trace => 5

end Level

/-- The value of a field. `plain` is written as it stands, `text` between quotes. -/
inductive FieldValue
  | plain (s : String)
  | text (s : String)
  | flag (b : Bool)
  | count (n : Nat)
deriving DecidableEq, Repr

namespace FieldValue

def written : FieldValue → String
  | plain s => s
  | text s => Text.quoted s
  | flag b => if b then "true" else "false"
  | count n => toString n

end FieldValue

inductive Event
  | listening (address path : String)
  | proxying (server path : String) (replaceHost : Bool)
  | advertising (context : String)
  | rebasingBodies (types : List String)
  | redirecting (location : String)
  | routed (source target : String)
  | forwarding (method uri : String)
  | exchangeFailed (uri reason : String)
  | exchangeTimedOut (uri : String) (limit : Duration)
  | headersUntouched (status : Status)
  | responded (status : Status) (contentType : String) (rebased : Bool)
  | bodyFailed (reason : String)
  | bodyFailedMidLine (reason : String) (pending : Nat)
deriving DecidableEq, Repr

namespace Event

def level : Event → Level
  | listening .. | proxying .. | advertising .. | rebasingBodies .. | routed ..
  | headersUntouched .. => .info
  | redirecting .. | forwarding .. | responded .. => .debug
  | exchangeFailed .. | exchangeTimedOut .. | bodyFailed .. | bodyFailedMidLine .. => .warn

def target : Event → String
  | listening .. | proxying .. | advertising .. | rebasingBodies .. => "rebase_proxy::config"
  | redirecting .. | routed .. | responded .. => "rebase_proxy::proxy"
  | forwarding .. | exchangeFailed .. | exchangeTimedOut .. | headersUntouched .. =>
    "rebase_proxy::transport"
  | bodyFailed .. | bodyFailedMidLine .. => "rebase_proxy::rewrite"

def message : Event → String
  | listening .. => "Listening"
  | proxying .. => "Proxying"
  | advertising .. => "Advertising JSON-LD context"
  | rebasingBodies .. => "Rewriting bodies"
  | redirecting .. => "Redirecting to bind path"
  | routed .. => "Proxying"
  | forwarding .. => "Forwarding request"
  | exchangeFailed .. => "Upstream request failed"
  | exchangeTimedOut .. => "Upstream timed out"
  | headersUntouched .. => "Unexpected response, headers untouched"
  | responded .. => "Upstream responded"
  | bodyFailed .. => "Upstream body failed"
  | bodyFailedMidLine .. => "Upstream body failed mid-rewrite"

def quotedList (texts : List String) : String :=
  "[" ++ String.intercalate ", " (texts.map Text.quoted) ++ "]"

def fields : Event → List (String × FieldValue)
  | listening address path => [("bind", .plain address), ("path", .plain path)]
  | proxying server path replaceHost =>
    [("upstream", .plain server), ("path", .plain path), ("rewrite_host", .flag replaceHost)]
  | advertising context => [("context", .plain context)]
  | rebasingBodies types => [("types", .plain (quotedList types))]
  | redirecting location => [("location", .plain location)]
  | routed source target => [("from", .plain source), ("to", .plain target)]
  | forwarding method uri => [("method", .plain method), ("uri", .plain uri)]
  | exchangeFailed uri reason => [("uri", .plain uri), ("error", .plain reason)]
  | exchangeTimedOut uri limit => [("uri", .plain uri), ("timeout", .plain limit.text)]
  | headersUntouched status => [("status", .plain status.text)]
  | responded status contentType rebased =>
    [("status", .plain status.text), ("content_type", .text contentType),
     ("rewrite", .flag rebased)]
  | bodyFailed reason => [("error", .plain reason)]
  | bodyFailedMidLine reason pending => [("error", .plain reason), ("pending", .count pending)]

def line (event : Event) : String :=
  let fields := event.fields.map fun field => " " ++ field.1 ++ "=" ++ field.2.written
  event.level.name ++ " " ++ event.target ++ ": " ++ event.message ++ String.join fields

end Event

end RebasingProxy
