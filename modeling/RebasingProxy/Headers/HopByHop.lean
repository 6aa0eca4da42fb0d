import RebasingProxy.Headers

/-! # Fields of a single connection

Some fields describe one connection and end with it, and a connection may name more
of them in its `connection` fields. They are taken off before a message goes on.
-/
namespace RebasingProxy.Headers

def hopByHopNames : List String :=
  ["connection", "keep-alive", "proxy-connection", "proxy-authenticate", "proxy-authorization",
   "te", "trailer", "transfer-encoding", "upgrade"]

def connectionNames (headers : Headers) : List String :=
  (headers.tokens "connection").filter fun name => name != ""

def withoutHopByHop (headers : Headers) : Headers :=
  (hopByHopNames ++ headers.connectionNames).foldl remove headers

end RebasingProxy.Headers
