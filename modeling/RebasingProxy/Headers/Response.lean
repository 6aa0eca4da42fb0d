import RebasingProxy.Event
import RebasingProxy.Headers.HopByHop

/-! # Fields of a forwarded response

A response up to status 299 gets the link to the context, which scripts may read, and
loses its length, since its body may be rebased to another one. Fields of the
backend's connection end at the proxy.
-/
namespace RebasingProxy.Headers

/-- The fields with the link and without the length, and what is logged. A response
above status 299 keeps its fields. -/
def decorated (headers : Headers) (status : Status) (link : Option Bytes) :
    Headers × List Event :=
  if status.code > 299 then (headers, [.headersUntouched status])
  else
    let linked := link.elim headers (headers.append "link")
    ((linked.remove "content-length").append "access-control-expose-headers"
      (Bytes.ofText "Link"), [])

/-- The first content type as text; the empty text if there is none or it is not text. -/
def contentType (headers : Headers) : String :=
  ((headers.first? "content-type").bind headerText?).getD ""

end RebasingProxy.Headers
