import Mathlib.Data.List.TakeWhile
import RebasingProxy.BodyStream
import RebasingProxy.Proofs.LineBuffer

/-! # What a consumer sees of a rebasing stream

A consumer polls and sees answers, log events, and whether the stream says that nothing
will follow. Up to the trailers or the end of the backend's body, every item leads to at most
one sight, and a chunk that completes nothing leads to none: its poll goes on with
the next item. Behind them come the unfinished line, the trailers, and ends for ever. So the
loop inside a poll, its early returns and the stored trailers are one pass over the items.
-/
namespace RebasingProxy
namespace Item

def bytes : Item → Bytes
  | data bytes => bytes
  | _ => []

def fields? : Item → Option Headers
  | trailers fields => some fields
  | _ => none

def isFailure : Item → Bool
  | failure _ => true
  | _ => false

def isQuiet (item : Item) : Bool := item.fields?.isNone && !item.isFailure

theorem exists_split_trailers (items : List Item) :
    (∀ item ∈ items, item.fields? = none) ∨ ∃ before fields after,
      items = before ++ trailers fields :: after ∧ ∀ item ∈ before, item.fields? = none := by
  induction items with
  | nil => exact Or.inl (by simp)
  | cons item items ih =>
    cases hitem : item.fields? with
    | some fields =>
      cases item <;> simp only [fields?, reduceCtorEq, Option.some.injEq] at hitem
      exact Or.inr ⟨[],_,items,rfl,by simp⟩
    | none =>
      rcases ih with hnone | ⟨before,fields,after,rfl,hbefore⟩
      · exact Or.inl (by simpa [hitem] using hnone)
      · exact Or.inr ⟨item :: before,fields,after,rfl,by simpa [hitem] using hbefore⟩

def beforeTrailers (items : List Item) : List Item :=
  items.takeWhile fun item => item.fields?.isNone

theorem fields?_of_mem_beforeTrailers {items : List Item} {item : Item}
    (h : item ∈ beforeTrailers items) : item.fields? = none := by
  unfold beforeTrailers at h
  simpa using List.mem_takeWhile_imp h

def firstFields? (items : List Item) : Option Headers := items.findSome? fields?

section Split
variable {before : List Item} (h : ∀ item ∈ before, item.fields? = none)
include h

theorem beforeTrailers_of_none : beforeTrailers before = before :=
  List.takeWhile_eq_self_iff.mpr (fun item hitem => by simp [h item hitem])

theorem firstFields?_of_none : firstFields? before = none :=
  List.findSome?_eq_none_iff.mpr h

theorem beforeTrailers_append (headers : Headers) (after : List Item) :
    beforeTrailers (before ++ trailers headers :: after) = before := by
  rw [beforeTrailers, List.takeWhile_append_of_pos (fun item hitem => by simp [h item hitem])]
  simp [fields?]

theorem firstFields?_append (headers : Headers) (after : List Item) :
    firstFields? (before ++ trailers headers :: after) = some headers := by
  rw [firstFields?, List.findSome?_append, List.findSome?_eq_none_iff.mpr h]
  rfl

end Split

end Item

namespace BodyStream

/-- What a consumer sees of one poll: the answer, what was logged meanwhile, and whether the
stream then says that nothing will follow. -/
structure Sight where
  answer : Option Item
  events : List Event := []
  isEnd : Bool := false
deriving DecidableEq, Repr

def Sight.bytes (sight : Sight) : Bytes := sight.answer.elim [] Item.bytes

def ended : Sight := { answer := none, isEnd := true }

def watch (stream : BodyStream) : Nat → List Sight
  | 0 => []
  | count + 1 =>
    { answer := stream.poll.answer, events := stream.poll.events
      isEnd := stream.poll.stream.isEnd } :: stream.poll.stream.watch count

theorem watch_congr {first second : BodyStream} (h : first.poll = second.poll) (count : Nat) :
    first.watch count = second.watch count := by
  cases count with
  | zero => rfl
  | succ count => simp only [watch, h]

theorem watch_of_poll {stream next : BodyStream} {answer : Option Item} {events : List Event}
    (h : stream.poll = ⟨answer, events, next⟩) (count : Nat) :
    stream.watch (1 + count) = ⟨answer, events, next.isEnd⟩ :: next.watch count := by
  rw [Nat.add_comm, watch, h]

def midway (endsReported : Nat) (lines : LineBuffer) (items : List Item) : BodyStream :=
  { source := ⟨items, endsReported⟩, lines := some lines }

def exhausted (source : Source) (lines : LineBuffer) (trailers : Option Headers) : BodyStream :=
  { source := source, lines := some lines, trailers := trailers, done := true }

/-- A chunk that completes nothing leaves the poll to the items behind it. -/
theorem poll_data (endsReported : Nat) (lines : LineBuffer) (chunk : Bytes) (rest : List Item) :
    (midway endsReported lines (.data chunk :: rest)).poll =
      if (lines.push chunk).1.isEmpty then (midway endsReported (lines.push chunk).2 rest).poll
      else
        { answer := some (.data (lines.push chunk).1)
          stream := midway endsReported (lines.push chunk).2 rest } := rfl

def relay (lines : LineBuffer) : Item → List Sight × LineBuffer
  | .data chunk =>
    let (out, lines) := lines.push chunk
    (if out.isEmpty then [] else [{ answer := some (.data out) }], lines)
  | .failure reason =>
    ([{ answer := some (.failure reason)
        events := [.bodyFailedMidLine reason lines.held.length] }], lines)
  | .pending => ([{ answer := some .pending }], lines)
  | .trailers _ => ([], lines)

def relayAll (lines : LineBuffer) : List Item → List Sight × LineBuffer
  | [] => ([], lines)
  | item :: items =>
    let (sights, lines) := relay lines item
    let (more, lines) := relayAll lines items
    (sights ++ more, lines)

def closing (lines : LineBuffer) (trailers : Option Headers) : List Sight :=
  lines.finish.1.toList.map (fun out =>
    { answer := some (.data out), isEnd := trailers.isNone }) ++
  trailers.toList.map fun fields => { answer := some (.trailers fields), isEnd := true }

/-- Everything a consumer sees of a body: what the items in front of the trailers lead to, and
what the end leads to. What stands behind the trailers is not seen. -/
def sights (lines : LineBuffer) (items : List Item) : List Sight :=
  (relayAll lines (Item.beforeTrailers items)).1 ++
    closing (relayAll lines (Item.beforeTrailers items)).2 (Item.firstFields? items)

section Watching
variable (endsReported : Nat) (lines : LineBuffer)

theorem watch_relay {item : Item} (h : item.fields? = none) (rest : List Item) (count : Nat) :
    (midway endsReported lines (item :: rest)).watch ((relay lines item).1.length + count) =
      (relay lines item).1 ++ (midway endsReported (relay lines item).2 rest).watch count := by
  cases item with
  | data chunk =>
    have hpoll := poll_data endsReported lines chunk rest
    by_cases hout : (lines.push chunk).1.isEmpty
    · rw [if_pos hout] at hpoll
      simp only [relay, if_pos hout, List.length_nil, Nat.zero_add, List.nil_append]
      exact watch_congr hpoll count
    · rw [if_neg hout] at hpoll
      simp only [relay, if_neg hout, List.length_singleton]
      exact watch_of_poll hpoll count
  | trailers fields => simp [Item.fields?] at h
  | failure reason => exact watch_of_poll rfl count
  | pending => exact watch_of_poll rfl count

theorem watch_relayAll {items : List Item} (h : ∀ item ∈ items, item.fields? = none)
    (rest : List Item) (count : Nat) :
    (midway endsReported lines (items ++ rest)).watch ((relayAll lines items).1.length + count) =
      (relayAll lines items).1 ++
        (midway endsReported (relayAll lines items).2 rest).watch count := by
  induction items generalizing lines with
  | nil => simp [relayAll]
  | cons item items ih =>
    obtain ⟨hitem,hitems⟩ := List.forall_mem_cons.mp h
    have hfirst := watch_relay endsReported lines hitem (items ++ rest)
      ((relayAll (relay lines item).2 items).1.length + count)
    rw [ih _ hitems] at hfirst
    simpa [relayAll, Nat.add_assoc] using hfirst

theorem watch_exhausted (source : Source) (trailers : Option Headers) (count : Nat) :
    (exhausted source lines trailers).watch (trailers.toList.length + count) =
      trailers.toList.map (fun fields => { answer := some (.trailers fields), isEnd := true }) ++
        List.replicate count ended := by
  have hnone : ∀ count, (exhausted source lines none).watch count = List.replicate count ended := by
    intro count
    induction count with
    | zero => rfl
    | succ count ih => exact congrArg (ended :: ·) ih
  cases trailers with
  | none => simpa using hnone count
  | some fields =>
    have hfirst : (exhausted source lines (some fields)).poll =
        ⟨some (.trailers fields),[],exhausted source lines none⟩ := rfl
    have hwatch := watch_of_poll hfirst count
    rw [hnone] at hwatch
    exact hwatch

theorem watch_of_close {stream : BodyStream} {source : Source} {trailers : Option Headers}
    (h : stream.poll = close source lines trailers) (count : Nat) :
    stream.watch ((closing lines trailers).length + count) =
      closing lines trailers ++ List.replicate count ended := by
  have hexhausted := watch_exhausted lines.finish.2 source trailers count
  cases hrest : lines.finish.1 with
  | none =>
    have hpoll : stream.poll = (exhausted source lines.finish.2 trailers).poll := by
      simp only [h, close, hrest]
      rfl
    rw [watch_congr hpoll]
    simpa [closing, hrest] using hexhausted
  | some out =>
    have hpoll : stream.poll = ⟨some (.data out),[],exhausted source lines.finish.2 trailers⟩ := by
      simp only [h, close, hrest]
      rfl
    have hwatch := watch_of_poll hpoll (trailers.toList.length + count)
    rw [hexhausted, ← Nat.add_assoc, Nat.add_comm 1] at hwatch
    simpa [closing, hrest, exhausted, isEnd] using hwatch

/-- The sights of a body are followed by ends for ever. -/
theorem watch_midway (items : List Item) (count : Nat) :
    (midway endsReported lines items).watch ((sights lines items).length + count) =
      sights lines items ++ List.replicate count ended := by
  have hlen : (sights lines items).length + count =
      (relayAll lines (Item.beforeTrailers items)).1.length +
        ((closing (relayAll lines (Item.beforeTrailers items)).2
          (Item.firstFields? items)).length + count) := by
    rw [sights, List.length_append, Nat.add_assoc]
  rw [hlen, sights, List.append_assoc]
  rcases Item.exists_split_trailers items with hnone | ⟨before,fields,after,rfl,hbefore⟩
  · have hall := watch_relayAll endsReported lines hnone []
      ((closing (relayAll lines items).2 none).length + count)
    rw [List.append_nil] at hall
    rw [Item.beforeTrailers_of_none hnone, Item.firstFields?_of_none hnone, hall,
      watch_of_close _ rfl]
  · rw [Item.beforeTrailers_append hbefore, Item.firstFields?_append hbefore,
      watch_relayAll endsReported lines hbefore, watch_of_close _ rfl]

end Watching

end BodyStream

end RebasingProxy
