import RebasingProxy.Headers.HopByHop
import RebasingProxy.IpAddress

/-! # Fields of a forwarded request

Fields of the client's connection end at the proxy, except that a wish for trailers is
passed on. Compressed bodies could not be rebased, so none are asked for. The client's
address joins the chain of addresses the request has come through.
-/
namespace RebasingProxy.Headers

def wantsTrailers (headers : Headers) : Bool := (headers.tokens "te").contains "trailers"

/-- The chain of addresses with one more at its end. A chain that is not text is dropped. -/
def extendChain (prior : Option String) (client : IpAddress) : String :=
  match prior with
  | some chain => chain ++ ", " ++ client.text
  | none => client.text

/-- Records the client in `x-forwarded-for`, in place of all values there were. -/
def forwardedFor (headers : Headers) (client : IpAddress) : Headers :=
  let prior := (headers.first? "x-forwarded-for").bind headerText?
  let chain := Bytes.ofText (extendChain prior client)
  if isLegalHeaderValue chain then headers.insert "x-forwarded-for" chain else headers

def addressedTo (headers : Headers) (host : String) : Headers :=
  let value := Bytes.ofText host
  if isLegalHeaderValue value then headers.insert "host" value else headers

def forRequest (headers : Headers) (client : Option IpAddress) (host : Option String) :
    Headers :=
  let kept := headers.withoutHopByHop
  let kept := if headers.wantsTrailers then kept.insert "te" (Bytes.ofText "trailers") else kept
  let kept := kept.remove "accept-encoding"
  let kept := client.elim kept kept.forwardedFor
  host.elim kept kept.addressedTo

end RebasingProxy.Headers
