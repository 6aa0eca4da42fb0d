import RebasingProxy.Proofs.BodyStream

/-! # How a body stream ends

A stream that has ended stays as it is, so its end is announced in time and never taken back. One
poll may ask the backend's body several times, but only the last answer of a poll can be the end of
the body, or the trailers where the body is rebased, and after such an answer the body is not asked
again. Every answer that is no end uses up an item, and the unfinished line is one answer more.
-/
namespace RebasingProxy
namespace Source

def after (source : Source) : Nat → Source
  | 0 => source
  | count + 1 => source.next.2.after count

def answers (source : Source) : Nat → List (Option Item)
  | 0 => []
  | count + 1 => source.next.1 :: source.next.2.answers count

theorem after_add (source : Source) (first second : Nat) :
    source.after (first + second) = (source.after first).after second := by
  induction first generalizing source with
  | zero => rw [Nat.zero_add]; rfl
  | succ first ih => rw [Nat.succ_add]; exact ih source.next.2

theorem answers_add (source : Source) (first second : Nat) :
    source.answers (first + second) =
      source.answers first ++ (source.after first).answers second := by
  induction first generalizing source with
  | zero => rw [Nat.zero_add]; rfl
  | succ first ih => rw [Nat.succ_add]; exact congrArg (source.next.1 :: ·) (ih source.next.2)

/-- Every item the body has handed out is missing in what it still has. -/
theorem length_after_add_countP (source : Source) (count : Nat) :
    (source.after count).items.length + (source.answers count).countP Option.isSome =
      source.items.length := by
  induction count generalizing source with
  | zero => rfl
  | succ count ih =>
    have hrest := ih source.next.2
    obtain ⟨items,endsReported⟩ := source
    cases items with
    | nil => simpa [after, answers, next] using hrest
    | cons item items =>
      simp only [after, answers, next, List.countP_cons_of_pos, Option.isSome_some,
        List.length_cons] at hrest ⊢
      omega

end Source

/-- An answer of the backend's body behind which it is not asked again: its end, and, where the body
is rebased, its trailers. -/
def Item.Closes (rebases : Bool) : Option Item → Prop
  | none => True
  | some item => rebases = true ∧ item.fields? ≠ none

namespace BodyStream
open Item

def after (stream : BodyStream) : Nat → BodyStream
  | 0 => stream
  | count + 1 => stream.poll.stream.after count

theorem after_add (stream : BodyStream) (first second : Nat) :
    stream.after (first + second) = (stream.after first).after second := by
  induction first generalizing stream with
  | zero => rw [Nat.zero_add]; rfl
  | succ first ih => rw [Nat.succ_add]; exact ih stream.poll.stream

section Step
variable {stream : BodyStream}

theorem poll_of_done (h : stream.done = true) :
    stream.poll =
      { answer := stream.trailers.map Item.trailers,
        stream := { stream with trailers := none } } := by
  rw [poll, if_pos h]
  rfl

theorem isEnd_iff : stream.isEnd = true ↔ stream.done = true ∧ stream.trailers = none := by
  simp [isEnd]

theorem poll_of_isEnd (h : stream.isEnd = true) : stream.poll = ⟨none,[],stream⟩ := by
  obtain ⟨hdone,htrailers⟩ := isEnd_iff.mp h
  obtain ⟨source,lines,trailers,done⟩ := stream
  obtain rfl : trailers = none := htrailers
  rw [poll_of_done hdone]
  rfl

end Step

section Midway
variable (source : Source) (lines : LineBuffer)

/-- The end of a body is one answer, and one more if there are trailers. -/
theorem close_spec (trailers : Option Headers) :
    let polled := close source lines trailers
    polled.stream.source = source ∧ polled.stream.lines.isSome = true ∧
      polled.stream.done = true ∧ (polled.answer = none → polled.stream.trailers = none) ∧
      polled.answer.isSome.toNat + polled.stream.trailers.isSome.toNat ≤
        trailers.isSome.toNat + 1 := by
  cases hrest : lines.finish.1 with
  | some out => simp [close, hrest, Nat.add_comm]
  | none => cases trailers <;> simp [close, hrest, pollDone]

/-- A poll of a rebasing stream takes chunks that lead to nothing and one answer more, and that
one decides whether the body is over. -/
theorem pollLines_cases (endsReported : Nat) (items : List Item) :
    ∃ (early : List (Option Item)) (last : Option Item) (lines' : LineBuffer),
      let source : Source := ⟨items,endsReported⟩
      let left := source.after (early.length + 1)
      source.answers (early.length + 1) = early ++ [last] ∧
      (∀ answer ∈ early, ¬ Closes true answer) ∧
      (Closes true last ∧
          pollLines endsReported lines items = close left lines' (last.bind Item.fields?) ∨
        ¬ Closes true last ∧ ∃ answer events, pollLines endsReported lines items =
          ⟨some answer,events,{ source := left, lines := some lines' }⟩) := by
  induction items generalizing lines with
  | nil => exact ⟨[],none,lines,rfl,by simp,Or.inl ⟨trivial,rfl⟩⟩
  | cons item items ih =>
    cases item with
    | data chunk =>
      have hdata : ¬ Closes true (some (.data chunk)) := fun h => h.2 rfl
      by_cases hout : (lines.push chunk).1.isEmpty
      · obtain ⟨early,last,lines',hanswers,hearly,hpoll⟩ := ih (lines.push chunk).2
        refine ⟨some (.data chunk) :: early,last,lines',?_,
          List.forall_mem_cons.mpr ⟨hdata,hearly⟩,?_⟩
        · exact congrArg (some (.data chunk) :: ·) hanswers
        · simp only [pollLines, if_pos hout]
          exact hpoll
      · refine ⟨[],some (.data chunk),(lines.push chunk).2,rfl,by simp,Or.inr ⟨hdata,?_⟩⟩
        simp only [pollLines, if_neg hout]
        exact ⟨_,_,rfl⟩
    | trailers fields =>
      exact ⟨[],_,lines,rfl,by simp,Or.inl ⟨⟨rfl,by simp [fields?]⟩,rfl⟩⟩
    | failure reason => exact ⟨[],_,lines,rfl,by simp,Or.inr ⟨fun h => h.2 rfl,_,_,rfl⟩⟩
    | pending => exact ⟨[],_,lines,rfl,by simp,Or.inr ⟨fun h => h.2 rfl,_,_,rfl⟩⟩

end Midway

/-- What a poll of a stream that is not done comes to, when the backend's body gives some answers
that close nothing and then a last one. -/
structure Turns (rebases : Bool) (stream : BodyStream) (early : List (Option Item))
    (last : Option Item) : Prop where
  answers : stream.source.answers (early.length + 1) = early ++ [last]
  opens : ∀ answer ∈ early, ¬ Closes rebases answer
  source : stream.poll.stream.source = stream.source.after (early.length + 1)
  mode : stream.poll.stream.lines.isSome = rebases
  goesOn : ¬ Closes rebases last → stream.poll.stream.done = false ∧
    stream.poll.answer ≠ none ∧ stream.poll.stream.trailers = none
  closes : Closes rebases last → stream.poll.stream.done = true ∧
    (stream.poll.answer = none → stream.poll.stream.trailers = none) ∧
    stream.poll.answer.isSome.toNat + stream.poll.stream.trailers.isSome.toNat ≤
      last.isSome.toNat + rebases.toNat

theorem turns_passThrough (source : Source) :
    Turns false { source := source } [] source.next.1 where
  answers := rfl
  opens := by simp
  source := rfl
  mode := rfl
  goesOn := by cases hnext : source.next.1 <;> simp [poll, pollSource, hnext, Closes]
  closes := by cases hnext : source.next.1 <;> simp [poll, pollSource, hnext, Closes]

theorem turns_rebasing (source : Source) (lines : LineBuffer) :
    ∃ early last, Turns true { source := source, lines := some lines } early last := by
  obtain ⟨items,endsReported⟩ := source
  obtain ⟨early,last,lines',hanswers,hearly,hpoll⟩ := pollLines_cases lines endsReported items
  refine ⟨early,last,?_⟩
  let stream : BodyStream := { source := ⟨items,endsReported⟩, lines := some lines }
  have hsame : stream.poll = pollLines endsReported lines items := rfl
  rw [← hsame] at hpoll
  rcases hpoll with ⟨hcloses,hpoll⟩ | ⟨hopen,answer,events,hpoll⟩
  · obtain ⟨hsource,hlines,hdone,hnone,hcount⟩ := close_spec
      (Source.after ⟨items,endsReported⟩ (early.length + 1)) lines' (last.bind Item.fields?)
    rw [← hpoll] at hsource hlines hdone hnone hcount
    have hfields : (last.bind Item.fields?).isSome.toNat ≤ last.isSome.toNat := by
      cases last <;> simp [Bool.toNat_le]
    refine ⟨hanswers,hearly,hsource,hlines,absurd hcloses,fun _ => ⟨hdone,hnone,hcount.trans ?_⟩⟩
    exact Nat.add_le_add_right hfields 1
  · refine ⟨hanswers,hearly,?_,?_,?_,fun h => absurd h hopen⟩
    · exact congrArg (fun polled => polled.stream.source) hpoll
    · exact congrArg (fun polled => polled.stream.lines.isSome) hpoll
    · simp [stream, hpoll]

theorem exists_turns {rebases : Bool} {stream : BodyStream}
    (hmode : stream.lines.isSome = rebases) (hdone : stream.done = false)
    (htrailers : stream.trailers = none) : ∃ early last, Turns rebases stream early last := by
  obtain ⟨source,lines,trailers,done⟩ := stream
  obtain rfl : done = false := hdone
  obtain rfl : trailers = none := htrailers
  cases lines with
  | none =>
    obtain rfl : false = rebases := hmode
    exact ⟨_,_,turns_passThrough source⟩
  | some lines =>
    obtain rfl : true = rebases := hmode
    exact turns_rebasing source lines

/-- How far a stream has got over the body it started with: of what it asked only the last answer
may close the body, and none does as long as the stream is not done. -/
structure Follows (start : Source) (rebases : Bool) (stream : BodyStream) : Prop where
  mode : stream.lines.isSome = rebases
  trailers : stream.done = false → stream.trailers = none
  asked : ∃ count, stream.source = start.after count ∧
    (∀ answer ∈ (start.answers count).dropLast, ¬ Closes rebases answer) ∧
    (stream.done = false → ∀ answer ∈ start.answers count, ¬ Closes rebases answer)

def left (rebases : Bool) (stream : BodyStream) : Nat :=
  if stream.done then stream.trailers.isSome.toNat
  else stream.source.items.length + rebases.toNat

section Running
variable {start : Source} {rebases : Bool} {stream : BodyStream}

theorem Turns.follows {early : List (Option Item)} {last : Option Item}
    (h : Turns rebases stream early last) (hdone : stream.done = false)
    (hfollows : Follows start rebases stream) : Follows start rebases stream.poll.stream := by
  obtain ⟨count,hcount,_,hopen⟩ := hfollows.asked
  have hall : start.answers (count + (early.length + 1)) =
      (start.answers count ++ early) ++ [last] := by
    rw [Source.answers_add, ← hcount, h.answers, List.append_assoc]
  have hfront : ∀ answer ∈ start.answers count ++ early, ¬ Closes rebases answer := by
    intro answer hanswer
    exact (List.mem_append.mp hanswer).elim (hopen hdone answer) (h.opens answer)
  have hlast : stream.poll.stream.done = false → ¬ Closes rebases last := by
    intro hnext hcloses
    exact absurd (hnext.symm.trans (h.closes hcloses).1) (by decide)
  refine ⟨h.mode,fun hnext => (h.goesOn (hlast hnext)).2.2,count + (early.length + 1),?_,?_,?_⟩
  · rw [h.source, hcount, ← Source.after_add]
  · rw [hall, List.dropLast_concat]
    exact hfront
  · intro hnext answer hanswer
    rw [hall] at hanswer
    rcases List.mem_append.mp hanswer with hanswer | hanswer
    · exact hfront answer hanswer
    · rw [List.mem_singleton.mp hanswer]
      exact hlast hnext

theorem Follows.poll (h : Follows start rebases stream) :
    Follows start rebases stream.poll.stream := by
  cases hdone : stream.done with
  | true =>
    obtain ⟨count,hcount,hfront,_⟩ := h.asked
    rw [poll_of_done hdone]
    exact ⟨h.mode,fun _ => rfl,count,hcount,hfront,fun hopen => by simp [hdone] at hopen⟩
  | false =>
    obtain ⟨early,last,hturns⟩ := exists_turns h.mode hdone (h.trailers hdone)
    exact hturns.follows hdone h

theorem Follows.isEnd_of_answer (h : Follows start rebases stream)
    (hanswer : stream.poll.answer = none) : stream.poll.stream.isEnd = true := by
  cases hdone : stream.done with
  | true =>
    rw [poll_of_done hdone]
    exact isEnd_iff.mpr ⟨hdone,rfl⟩
  | false =>
    obtain ⟨early,last,hturns⟩ := exists_turns h.mode hdone (h.trailers hdone)
    have hcloses : Closes rebases last := by
      by_contra hopen
      exact (hturns.goesOn hopen).2.1 hanswer
    obtain ⟨hover,htrailers,_⟩ := hturns.closes hcloses
    exact isEnd_iff.mpr ⟨hover,htrailers hanswer⟩

/-- An answer uses up one of those that may come. -/
theorem Follows.left_poll (h : Follows start rebases stream) :
    stream.poll.answer.isSome.toNat + left rebases stream.poll.stream ≤ left rebases stream := by
  cases hdone : stream.done with
  | true =>
    rw [poll_of_done hdone]
    simp [left, hdone]
  | false =>
    obtain ⟨early,last,hturns⟩ := exists_turns h.mode hdone (h.trailers hdone)
    have hitems := stream.source.length_after_add_countP (early.length + 1)
    rw [hturns.answers, List.countP_append, ← hturns.source, List.countP_singleton] at hitems
    have hnow : left rebases stream = stream.source.items.length + rebases.toNat := by
      rw [left, if_neg (by simp [hdone])]
    by_cases hcloses : Closes rebases last
    · obtain ⟨hover,_,hcount⟩ := hturns.closes hcloses
      rw [hnow, left, if_pos hover]
      cases last <;> simp at hitems hcount <;> omega
    · obtain ⟨hopen,_,_⟩ := hturns.goesOn hcloses
      have hlast : last.isSome = true := by
        cases last with
        | none => exact absurd trivial hcloses
        | some item => rfl
      rw [if_pos hlast] at hitems
      have hanswer := Bool.toNat_le stream.poll.answer.isSome
      rw [hnow, left, if_neg (by simp [hopen])]
      omega

theorem Follows.after (h : Follows start rebases stream) (count : Nat) :
    Follows start rebases (stream.after count) := by
  induction count generalizing stream with
  | zero => exact h
  | succ count ih => exact ih h.poll

theorem Follows.countP_watch (h : Follows start rebases stream) (count : Nat) :
    (stream.watch count).countP (fun sight => sight.answer.isSome) ≤ left rebases stream := by
  induction count generalizing stream with
  | zero => exact Nat.zero_le _
  | succ count ih =>
    have hrest := ih h.poll
    have hfirst := h.left_poll
    rw [watch, List.countP_cons]
    cases hanswer : stream.poll.answer <;> simp [hanswer] at hfirst ⊢ <;> omega

theorem after_of_isEnd (h : stream.isEnd = true) (count : Nat) : stream.after count = stream := by
  induction count with
  | zero => rfl
  | succ count ih =>
    have hsame : stream.poll.stream = stream := by rw [poll_of_isEnd h]
    rw [BodyStream.after, hsame, ih]

end Running

def relaying (items : List Item) : Option (Bases × Nat) → BodyStream
  | none => passThrough items
  | some (bases, maxLine) => rebasing items bases maxLine

theorem follows_relaying (items : List Item) (mode : Option (Bases × Nat)) :
    Follows (relaying items mode).source mode.isSome (relaying items mode) := by
  cases mode <;> exact ⟨rfl,fun _ => rfl,0,rfl,nofun,fun _ => nofun⟩

theorem left_relaying (items : List Item) (mode : Option (Bases × Nat)) :
    left mode.isSome (relaying items mode) = items.length + mode.isSome.toNat := by
  cases mode <;> rfl

/-- Where a stream says that nothing will follow, nothing follows, and behind the first end it says
so for ever. All answers but the ends are at most one more than the items if the body is rebased,
and no more if it is passed on. The backend's body is not asked again behind its end, nor behind its
trailers if it is rebased. -/
theorem ends_for_good (items : List Item) (mode : Option (Bases × Nat)) :
    let stream := relaying items mode
    (∀ early late, early ≤ late → (stream.after early).isEnd = true →
      (stream.after late).poll.answer = none) ∧
    (∀ early late, early < late → (stream.after early).poll.answer = none →
      (stream.after late).isEnd = true) ∧
    (∀ count, (stream.watch count).countP (fun sight => sight.answer.isSome) ≤
      items.length + mode.isSome.toNat) ∧
    ∀ count, ∃ asked, (stream.after count).source = stream.source.after asked ∧
      ∀ answer ∈ (stream.source.answers asked).dropLast, ¬ Closes mode.isSome answer := by
  intro stream
  have hfollows : Follows stream.source mode.isSome stream := follows_relaying items mode
  refine ⟨?_,?_,?_,?_⟩
  · intro early late hle hend
    obtain ⟨more,rfl⟩ := Nat.exists_eq_add_of_le hle
    rw [after_add, after_of_isEnd hend, poll_of_isEnd hend]
  · intro early late hlt hanswer
    obtain ⟨more,rfl⟩ := Nat.exists_eq_add_of_le (Nat.succ_le_of_lt hlt)
    have hend : (stream.after (early + 1)).isEnd = true := by
      rw [after_add]
      exact (hfollows.after early).isEnd_of_answer hanswer
    rw [Nat.succ_eq_add_one, after_add, after_of_isEnd hend, hend]
  · intro count
    have hcount := hfollows.countP_watch count
    rwa [left_relaying] at hcount
  · intro count
    obtain ⟨asked,hasked,hfront,_⟩ := (hfollows.after count).asked
    exact ⟨asked,hasked,hfront⟩

/-- Two items and three answers: a line, the unfinished one, and the trailers. -/
theorem ends_for_good_unfinished_line :
    let stream := relaying [.data [10, 97], .trailers {}] (some (⟨[97, 98],[99]⟩, 5))
    (stream.watch 3).map (·.answer) = [some (.data [10]), some (.data [97]), some (.trailers {})] ∧
      (stream.after 2).isEnd = false ∧ (stream.after 3).isEnd = true ∧
      (∀ late, 3 ≤ late → (stream.after late).poll.answer = none) ∧
      ∀ count, (stream.watch count).countP (fun sight => sight.answer.isSome) ≤ 3 := by
  intro stream
  have hend : (stream.after 3).isEnd = true := by decide +kernel
  obtain ⟨hquiet,_,hcount,_⟩ :=
    ends_for_good [.data [10, 97], .trailers {}] (some (⟨[97, 98],[99]⟩, 5))
  exact ⟨by decide +kernel,by decide +kernel,hend,fun late hlate => hquiet 3 late hlate hend,hcount⟩

end BodyStream
end RebasingProxy
