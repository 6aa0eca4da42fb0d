import RebasingProxy.BodyStream
import RebasingProxy.Duration
import RebasingProxy.Status

/-! # Backends

A backend takes a connection or refuses it, and responds to a request or breaks off. Each of these
takes its time, or never comes about at all.
-/
namespace RebasingProxy

/-- What comes about after a wait, if it ever does. -/
inductive Eventual (α : Type)
  | never
  | after (wait : Duration) (result : α)
deriving DecidableEq, Repr

namespace Eventual
variable {α β : Type}

def map (f : α → β) : Eventual α → Eventual β
  | never => never
  | after wait result => after wait (f result)

def delayed (wait : Duration) : Eventual α → Eventual α
  | never => never
  | after later result => after (wait + later) result

def bind (first : Eventual α) (next : α → Eventual β) : Eventual β :=
  match first with
  | never => never
  | after wait result => (next result).delayed wait

def within (limit : Duration) : Eventual α → Option α
  | never => none
  | after wait result => if wait ≤ limit then some result else none

end Eventual

structure Forwarded where
  method : String
  target : String
  headers : Headers
  body : Bytes
deriving DecidableEq, Repr

structure Response where
  status : Status
  headers : Headers := {}
  body : List Item := []
deriving DecidableEq, Repr

inductive Service
  | responds (response : Response)
  | breaksOff
deriving DecidableEq, Repr

structure Backend where
  connection : Eventual Bool
  serve : Forwarded → Eventual Service

namespace Backend

def unreachable : Backend where
  connection := .after 0 false
  serve _ := .never

def listening (serve : Forwarded → Service) : Backend where
  connection := .after 0 true
  serve received := .after 0 (serve received)

end Backend

end RebasingProxy
