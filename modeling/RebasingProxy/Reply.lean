import RebasingProxy.BodyStream

/-! # Replies to clients

A reply has a body of known length or one that streams from the backend. Only a body of
known length gets a `content-length` field on its way out.
-/
namespace RebasingProxy

inductive ReplyBody
  | fixed (bytes : Bytes)
  | streamed (stream : BodyStream)
deriving DecidableEq, Repr

def ReplyBody.collect : ReplyBody → BodyStream.Collected
  | fixed bytes => { data := bytes }
  | streamed stream => stream.collect

def ReplyBody.sizeHint : ReplyBody → Nat × Option Nat
  | fixed bytes => (bytes.length, some bytes.length)
  | streamed stream => stream.sizeHint

structure Reply where
  status : Status
  headers : Headers := {}
  body : ReplyBody := .fixed []
deriving DecidableEq, Repr

namespace Reply

/-- A length is declared if the size hint is exact. -/
def withLength (reply : Reply) : Reply :=
  let (least, greatest) := reply.body.sizeHint
  if greatest = some least then
    { reply with
      headers := reply.headers.insert "content-length" (Bytes.ofText (toString least)) }
  else reply

end Reply

end RebasingProxy
