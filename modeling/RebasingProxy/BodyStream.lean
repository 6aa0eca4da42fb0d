import RebasingProxy.Event
import RebasingProxy.Headers
import RebasingProxy.LineBuffer

/-! # The response body as a stream

The backend's body answers one poll after the other with data, trailers, a failure, or
nothing yet. A body stream wraps it: frames are passed on untouched, or data goes
through a line buffer. A poll of a rebasing stream that produces no output polls the
backend's body again, and the last unfinished line goes out before the trailers do.
-/
namespace RebasingProxy

inductive Item
  | data (bytes : Bytes)
  | trailers (fields : Headers)
  | failure (reason : String)
  | pending
deriving DecidableEq, Repr

/-- The backend's body: what it will answer, and how often it has reported its end. -/
structure Source where
  items : List Item
  endsReported : Nat := 0
deriving DecidableEq, Repr

namespace Source

def next (source : Source) : Option Item × Source :=
  match source.items with
  | [] => (none, { source with endsReported := source.endsReported + 1 })
  | item :: rest => (some item, { source with items := rest })

end Source

/-- Without a line buffer every frame is passed on untouched. -/
structure BodyStream where
  source : Source
  lines : Option LineBuffer := none
  trailers : Option Headers := none
  done : Bool := false
deriving DecidableEq, Repr

structure Polled where
  answer : Option Item
  events : List Event := []
  stream : BodyStream
deriving DecidableEq, Repr

namespace BodyStream

def passThrough (items : List Item) : BodyStream := { source := { items := items } }

def rebasing (items : List Item) (bases : Bases) (maxLine : Nat) : BodyStream :=
  { source := { items := items }, lines := some { bases := bases, maxLine := maxLine } }

def isEnd (stream : BodyStream) : Bool := stream.done && stream.trailers.isNone

/-- The least and the greatest number of bytes to come. A length that was declared is not told,
since the bytes may be rebased to another one. -/
def sizeHint (_ : BodyStream) : Nat × Option Nat := (0, none)

def pollDone (stream : BodyStream) : Polled :=
  { answer := stream.trailers.map Item.trailers, stream := { stream with trailers := none } }

def close (source : Source) (lines : LineBuffer) (trailers : Option Headers) : Polled :=
  let (rest, emptied) := lines.finish
  let closed : BodyStream :=
    { source := source, lines := some emptied, trailers := trailers, done := true }
  match rest with
  | some bytes => { answer := some (.data bytes), stream := closed }
  | none => closed.pollDone

def pollLines (endsReported : Nat) (lines : LineBuffer) : List Item → Polled
  | [] => close { items := [], endsReported := endsReported + 1 } lines none
  | .data chunk :: rest =>
    let (out, lines) := lines.push chunk
    if out.isEmpty then pollLines endsReported lines rest
    else
      { answer := some (.data out)
        stream := { source := ⟨rest, endsReported⟩, lines := some lines } }
  | .trailers fields :: rest => close ⟨rest, endsReported⟩ lines (some fields)
  | .failure reason :: rest =>
    { answer := some (.failure reason)
      events := [.bodyFailedMidLine reason lines.held.length]
      stream := { source := ⟨rest, endsReported⟩, lines := some lines } }
  | .pending :: rest =>
    { answer := some .pending
      stream := { source := ⟨rest, endsReported⟩, lines := some lines } }

def pollSource (stream : BodyStream) : Polled :=
  let (answer, source) := stream.source.next
  { answer := answer
    events := match answer with
      | some (.failure reason) => [.bodyFailed reason]
      | _ => []
    stream := { stream with source := source, done := answer.isNone } }

def poll (stream : BodyStream) : Polled :=
  if stream.done then stream.pollDone
  else match stream.lines with
    | none => stream.pollSource
    | some lines => pollLines stream.source.endsReported lines stream.source.items

structure Collected where
  data : Bytes := []
  trailers : Option Headers := none
  failed : Bool := false
  events : List Event := []
deriving DecidableEq, Repr

def collectWithin (stream : BodyStream) : Nat → Collected
  | 0 => {}
  | limit + 1 =>
    let polled := stream.poll
    let rest := polled.stream.collectWithin limit
    let logged := { rest with events := polled.events ++ rest.events }
    match polled.answer with
    | none => { events := polled.events }
    | some (.failure _) => { failed := true, events := polled.events }
    | some (.data bytes) => { logged with data := bytes ++ rest.data }
    | some (.trailers fields) => { logged with trailers := some fields }
    | some .pending => logged

/-- Every item leads to one answer at most, and the end of the body to two more. -/
def collect (stream : BodyStream) : Collected :=
  stream.collectWithin (stream.source.items.length + 3)

end BodyStream

end RebasingProxy
