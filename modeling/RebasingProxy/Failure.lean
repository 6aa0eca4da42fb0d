import RebasingProxy.Reply
import RebasingProxy.Duration
import RebasingProxy.Uri

/-! # Failed requests

Why a request is not answered by the backend. The reply depends on the status alone, so
it reveals nothing of paths, targets or hosts.
-/
namespace RebasingProxy

inductive TransportFault
  | connect | send
deriving DecidableEq, Repr

namespace TransportFault

def message : TransportFault → String
  | connect => "client error (Connect)"
  | send => "client error (SendRequest)"

end TransportFault

inductive Failure
  | notRouted (path : String)
  | invalidTarget (target : String) (error : UriError)
  | transport (fault : TransportFault)
  | timedOut (limit : Duration)
deriving DecidableEq, Repr

namespace Failure

def message : Failure → String
  | notRouted path => "no route for " ++ path
  | invalidTarget target error => "invalid upstream uri " ++ target ++ ": " ++ error.message
  | transport fault => "upstream request failed: " ++ fault.message
  | timedOut limit => "upstream did not answer within " ++ limit.text

def status : Failure → Status
  | notRouted _ => .notFound
  | invalidTarget .. => .badRequest
  | transport _ => .badGateway
  | timedOut _ => .gatewayTimeout

def reply (failure : Failure) : Reply :=
  { status := failure.status
    headers := .ofList [("content-type", Bytes.ofText "text/plain; charset=utf-8")]
    body := .fixed (Bytes.ofText (failure.status.reason?.getD "error" ++ "\n")) }

end Failure

end RebasingProxy
