import RebasingProxy.Proofs.BodyStream.Ending
import RebasingProxy.Proofs.BodyStream.Whole

/-! # Failures and empty polls in between

The backend's body may fail or have nothing yet between any two items; the stream hands that on
and goes on with the next poll as if nothing had been. So the frames and ends that a consumer
gets are those of the same body without interruptions, and every interruption that the stream
meets is one answer, behind all that the items in front of it lead to.
-/
namespace RebasingProxy
namespace Item

def isInterruption : Item → Bool
  | failure _ => true
  | pending => true
  | _ => false

def undisturbed (items : List Item) : List Item := items.filter fun item => !item.isInterruption

theorem beforeTrailers_undisturbed (items : List Item) :
    beforeTrailers (undisturbed items) = undisturbed (beforeTrailers items) := by
  induction items with
  | nil => rfl
  | cons item items ih =>
    cases item with
    | trailers fields => rfl
    | _ => simpa [undisturbed, beforeTrailers, isInterruption, fields?] using ih

theorem firstFields?_undisturbed (items : List Item) :
    firstFields? (undisturbed items) = firstFields? items := by
  induction items with
  | nil => rfl
  | cons item items ih =>
    cases item with
    | trailers fields => rfl
    | _ => exact ih

end Item

namespace BodyStream
open Item

def answers (stream : BodyStream) (count : Nat) : List (Option Item) :=
  (stream.watch count).map (·.answer)

/-- The answers that are frames or ends. -/
def frames (answers : List (Option Item)) : List (Option Item) :=
  answers.filter fun answer => !answer.any isInterruption

def interruptions (answers : List (Option Item)) : List (Option Item) :=
  answers.filter fun answer => answer.any isInterruption

theorem frames_append (first second : List (Option Item)) :
    frames (first ++ second) = frames first ++ frames second := List.filter_append first second

section Polls
variable (stream : BodyStream)

theorem watch_add (first second : Nat) :
    stream.watch (first + second) = stream.watch first ++ (stream.after first).watch second := by
  induction first generalizing stream with
  | zero => rw [Nat.zero_add]; rfl
  | succ first ih =>
    rw [Nat.succ_add]
    exact congrArg (_ :: ·) (ih stream.poll.stream)

theorem answers_add (first second : Nat) :
    stream.answers (first + second) =
      stream.answers first ++ (stream.after first).answers second := by
  rw [answers, watch_add, List.map_append]
  rfl

theorem length_answers (count : Nat) : (stream.answers count).length = count := by
  induction count generalizing stream with
  | zero => rfl
  | succ count ih => exact congrArg Nat.succ (ih stream.poll.stream)

variable {stream} in
/-- A beginning of the frames is what the first few polls give. -/
theorem exists_frames_of_prefix {count : Nat} {part : List (Option Item)}
    (h : part <+: frames (stream.answers count)) :
    ∃ count', part = frames (stream.answers count') := by
  obtain ⟨more,hmore⟩ := h
  obtain ⟨early,late,hanswers,rfl,_⟩ := List.filter_eq_append_iff.mp hmore.symm
  have hlen := congrArg List.length hanswers
  rw [length_answers, List.length_append] at hlen
  rw [hlen, answers_add] at hanswers
  have hearly := List.append_inj_left hanswers (stream.length_answers early.length)
  exact ⟨early.length,(congrArg frames hearly).symm⟩

end Polls

/-- The end of a body is no interruption. -/
theorem interruptions_close (source : Source) (lines : LineBuffer) (trailers : Option Headers) :
    interruptions [(close source lines trailers).answer] = [] := by
  cases hrest : lines.finish.1 with
  | some out => simp [close, hrest, interruptions, isInterruption]
  | none => cases trailers <;> simp [close, hrest, pollDone, interruptions, isInterruption]

theorem pollLines_takes (endsReported : Nat) (lines : LineBuffer) (items : List Item) :
    ∃ taken, items = taken ++ (pollLines endsReported lines items).stream.source.items ∧
      interruptions [(pollLines endsReported lines items).answer] =
        (taken.filter isInterruption).map some := by
  induction items generalizing lines with
  | nil =>
    have hsource := (close_spec ⟨[],endsReported + 1⟩ lines none).1
    refine ⟨[],?_,interruptions_close _ _ _⟩
    rw [pollLines, hsource]
    rfl
  | cons item items ih =>
    cases item with
    | data chunk =>
      by_cases hout : (lines.push chunk).1.isEmpty
      · obtain ⟨taken,hitems,hanswer⟩ := ih (lines.push chunk).2
        simp only [pollLines, if_pos hout]
        exact ⟨.data chunk :: taken,congrArg (Item.data chunk :: ·) hitems,hanswer⟩
      · simp only [pollLines, if_neg hout]
        exact ⟨[.data chunk],rfl,rfl⟩
    | trailers fields =>
      have hsource := (close_spec ⟨items,endsReported⟩ lines (some fields)).1
      refine ⟨[.trailers fields],?_,interruptions_close _ _ _⟩
      rw [pollLines, hsource]
      rfl
    | failure reason => exact ⟨[.failure reason],rfl,rfl⟩
    | pending => exact ⟨[.pending],rfl,rfl⟩

/-- A poll hands out the interruption it takes, and hands out none if it takes none. -/
theorem poll_takes (stream : BodyStream) :
    ∃ taken, stream.source.items = taken ++ stream.poll.stream.source.items ∧
      interruptions [stream.poll.answer] = (taken.filter isInterruption).map some := by
  obtain ⟨⟨items,endsReported⟩,lines,trailers,done⟩ := stream
  cases done with
  | true => cases trailers <;> exact ⟨[],rfl,rfl⟩
  | false =>
    cases lines with
    | some lines => exact pollLines_takes endsReported lines items
    | none =>
      cases items with
      | nil => exact ⟨[],rfl,rfl⟩
      | cons item items =>
        refine ⟨[item],rfl,?_⟩
        cases item <;> rfl

/-- The interruptions handed out are those of the items taken, each of them once. -/
theorem answers_takes (stream : BodyStream) (count : Nat) :
    ∃ taken, stream.source.items = taken ++ (stream.after count).source.items ∧
      interruptions (stream.answers count) = (taken.filter isInterruption).map some := by
  induction count generalizing stream with
  | zero => exact ⟨[],rfl,rfl⟩
  | succ count ih =>
    obtain ⟨now,hnow,hanswer⟩ := stream.poll_takes
    obtain ⟨later,hlater,hanswers⟩ := ih stream.poll.stream
    refine ⟨now ++ later,?_,?_⟩
    · rw [List.append_assoc, hnow, hlater]
      rfl
    · have hsplit : interruptions (stream.answers (count + 1)) =
          interruptions [stream.poll.answer] ++ interruptions (stream.poll.stream.answers count) :=
        List.filter_append [stream.poll.answer] (stream.poll.stream.answers count)
      rw [hsplit, hanswer, hanswers, List.filter_append, List.map_append]

def ledTo : Option (Bases × Nat) → List Item → List (Option Item)
  | none, items => items.map some
  | some (bases, maxLine), items =>
    (relayAll (LineBuffer.fresh bases maxLine) items).1.map (·.answer)

def wholeAnswers : Option (Bases × Nat) → List Item → List (Option Item)
  | none, items => items.map some
  | some (bases, maxLine), items => (sights (LineBuffer.fresh bases maxLine) items).map (·.answer)

section Relaying
variable (endsReported : Nat) (lines : LineBuffer)

theorem frames_relayAll (items : List Item) :
    frames ((relayAll lines items).1.map (·.answer)) =
        (relayAll lines (undisturbed items)).1.map (·.answer) ∧
      (relayAll lines items).2 = (relayAll lines (undisturbed items)).2 := by
  induction items generalizing lines with
  | nil => exact ⟨rfl,rfl⟩
  | cons item items ih =>
    obtain ⟨hframes,hlines⟩ := ih (relay lines item).2
    cases item with
    | data chunk =>
      refine ⟨?_,hlines⟩
      by_cases hout : (lines.push chunk).1.isEmpty
      · simpa [relayAll, relay, undisturbed, isInterruption, hout] using hframes
      · simpa [relayAll, relay, undisturbed, isInterruption, hout, frames] using hframes
    | trailers fields => exact ⟨hframes,hlines⟩
    | failure reason => exact ⟨hframes,hlines⟩
    | pending => exact ⟨hframes,hlines⟩

theorem frames_closing (trailers : Option Headers) :
    frames ((closing lines trailers).map (·.answer)) =
      (closing lines trailers).map (·.answer) := by
  rw [closing_answers, frames, List.filter_eq_self]
  cases lines.finish.1 <;> cases trailers <;> simp [isInterruption]

/-- The frames of a body are those of the body without interruptions. -/
theorem frames_wholeAnswers (mode : Option (Bases × Nat)) (items : List Item) :
    frames (wholeAnswers mode items) = wholeAnswers mode (undisturbed items) := by
  cases mode with
  | none => exact List.filter_map
  | some mode =>
    obtain ⟨bases,maxLine⟩ := mode
    let lines := LineBuffer.fresh bases maxLine
    obtain ⟨hframes,hlines⟩ := frames_relayAll lines (beforeTrailers items)
    have hclosing := frames_closing (relayAll lines (beforeTrailers items)).2 (firstFields? items)
    simp only [wholeAnswers, sights, List.map_append, beforeTrailers_undisturbed,
      firstFields?_undisturbed]
    rw [frames_append, hframes, hclosing, hlines]

theorem watch_of_isEnd {stream : BodyStream} (h : stream.isEnd = true) (count : Nat) :
    stream.watch count = List.replicate count ended := by
  induction count with
  | zero => rfl
  | succ count ih =>
    have hpoll := watch_of_poll (poll_of_isEnd h) count
    rw [ih, h, Nat.add_comm] at hpoll
    exact hpoll

theorem watch_passThrough_nil (count : Nat) :
    (passThrough []).watch count = List.replicate count ended := by
  cases count with
  | zero => rfl
  | succ count =>
    have hend : (passThrough []).poll.stream.isEnd = true := rfl
    exact congrArg (ended :: ·) (watch_of_isEnd hend count)

theorem answers_passThrough_append (items rest : List Item) (count : Nat) :
    (passThrough (items ++ rest)).answers (items.length + count) =
      items.map some ++ (passThrough rest).answers count := by
  rw [answers, watch_passThrough_append, List.map_append, List.map_map]
  rfl

theorem answers_relaying (mode : Option (Bases × Nat)) (items : List Item) (count : Nat) :
    (relaying items mode).answers ((wholeAnswers mode items).length + count) =
      wholeAnswers mode items ++ List.replicate count none := by
  cases mode with
  | none =>
    have hanswers := answers_passThrough_append items [] count
    rw [List.append_nil, answers, answers, watch_passThrough_nil, List.map_replicate] at hanswers
    simp only [wholeAnswers, List.length_map]
    exact hanswers
  | some mode =>
    obtain ⟨bases,maxLine⟩ := mode
    have hwatch := watch_midway 0 (LineBuffer.fresh bases maxLine) items count
    have hanswers := congrArg (List.map (·.answer)) hwatch
    rw [List.map_append, List.map_replicate] at hanswers
    simp only [wholeAnswers, List.length_map]
    exact hanswers

theorem exists_same_frames {mode : Option (Bases × Nat)} {items other : List Item}
    (h : undisturbed items = undisturbed other) (count : Nat) :
    ∃ count', frames ((relaying items mode).answers count) =
      frames ((relaying other mode).answers count') := by
  have hsame : frames (wholeAnswers mode items) = frames (wholeAnswers mode other) := by
    rw [frames_wholeAnswers, frames_wholeAnswers, h]
  -- Behind all answers there are only ends, so as many polls more reach past any beginning.
  have hlater : frames ((relaying items mode).answers (count + (wholeAnswers mode items).length)) =
      frames ((relaying other mode).answers ((wholeAnswers mode other).length + count)) := by
    rw [Nat.add_comm, answers_relaying, answers_relaying, frames_append, hsame, ← frames_append]
  rw [answers_add, frames_append] at hlater
  exact exists_frames_of_prefix ⟨_,hlater⟩

theorem after_congr {first second : BodyStream} (h : first.poll = second.poll) (count : Nat) :
    first.after (count + 1) = second.after (count + 1) := by
  rw [after, h]
  rfl

theorem after_of_poll {stream next : BodyStream} (h : stream.poll.stream = next) (count : Nat) :
    stream.after (1 + count) = next.after count := by
  rw [Nat.add_comm, after, h]

/-- A chunk that leads to nothing is taken by the next poll only, so the stream is where it would be
without the item from that poll on. -/
theorem after_relay {item : Item} (h : item.fields? = none) (rest : List Item) (count : Nat) :
    (midway endsReported lines (item :: rest)).after ((relay lines item).1.length + (count + 1)) =
      (midway endsReported (relay lines item).2 rest).after (count + 1) := by
  cases item with
  | data chunk =>
    have hpoll := poll_data endsReported lines chunk rest
    by_cases hout : (lines.push chunk).1.isEmpty
    · rw [if_pos hout] at hpoll
      simp only [relay, if_pos hout, List.length_nil, Nat.zero_add]
      exact after_congr hpoll count
    · rw [if_neg hout] at hpoll
      simp only [relay, if_neg hout, List.length_singleton]
      exact after_of_poll (congrArg Polled.stream hpoll) (count + 1)
  | trailers fields => simp [fields?] at h
  | failure reason => exact after_of_poll rfl (count + 1)
  | pending => exact after_of_poll rfl (count + 1)

theorem after_relayAll {items : List Item} (h : ∀ item ∈ items, item.fields? = none)
    (rest : List Item) (count : Nat) :
    (midway endsReported lines (items ++ rest)).after
        ((relayAll lines items).1.length + (count + 1)) =
      (midway endsReported (relayAll lines items).2 rest).after (count + 1) := by
  induction items generalizing lines with
  | nil => simp [relayAll]
  | cons item items ih =>
    obtain ⟨hitem,hitems⟩ := List.forall_mem_cons.mp h
    have hfirst := after_relay endsReported lines hitem (items ++ rest)
      ((relayAll (relay lines item).2 items).1.length + count)
    rw [Nat.add_assoc, ih _ hitems] at hfirst
    simpa [relayAll, Nat.add_assoc] using hfirst

theorem after_passThrough_append (items rest : List Item) :
    (passThrough (items ++ rest)).after items.length = passThrough rest := by
  induction items with
  | nil => rfl
  | cons item items ih =>
    have hnext : (passThrough (item :: (items ++ rest))).poll.stream =
        passThrough (items ++ rest) := by
      rw [poll_passThrough]
    rw [List.length_cons, Nat.add_comm, List.cons_append, after_of_poll hnext, ih]

theorem poll_of_interruption {item : Item} (h : item.isInterruption = true) (rest : List Item) :
    (midway endsReported lines (item :: rest)).poll.answer = some item ∧
      (midway endsReported lines (item :: rest)).poll.stream.source.items = rest := by
  cases item with
  | failure reason => exact ⟨rfl,rfl⟩
  | pending => exact ⟨rfl,rfl⟩
  | data chunk => simp [isInterruption] at h
  | trailers fields => simp [isInterruption] at h

/-- An interruption is the answer behind those that the items in front of it lead to. -/
theorem answers_of_interruption (mode : Option (Bases × Nat)) {before : List Item} {item : Item}
    (hitem : item.isInterruption = true)
    (hbefore : ∀ earlier ∈ before, ¬ Closes mode.isSome (some earlier)) (rest : List Item) :
    let stream := relaying (before ++ item :: rest) mode
    stream.answers ((ledTo mode before).length + 1) = ledTo mode before ++ [some item] ∧
      (stream.after ((ledTo mode before).length + 1)).source.items = rest := by
  cases mode with
  | none =>
    have hanswers := answers_passThrough_append before (item :: rest) 1
    have hafter := after_passThrough_append (before ++ [item]) rest
    rw [List.append_assoc, List.length_append] at hafter
    simp only [ledTo, List.length_map]
    exact ⟨hanswers,congrArg (fun stream => stream.source.items) hafter⟩
  | some mode =>
    obtain ⟨bases,maxLine⟩ := mode
    have hfields : ∀ earlier ∈ before, earlier.fields? = none := by
      intro earlier hearlier
      by_contra hsome
      exact hbefore earlier hearlier ⟨rfl,hsome⟩
    let lines := (relayAll (LineBuffer.fresh bases maxLine) before).2
    obtain ⟨hanswer,hitems⟩ := poll_of_interruption 0 lines hitem rest
    have hwatch := watch_relayAll 0 (LineBuffer.fresh bases maxLine) hfields (item :: rest) 1
    have hafter := after_relayAll 0 (LineBuffer.fresh bases maxLine) hfields (item :: rest) 0
    simp only [ledTo, List.length_map]
    refine ⟨?_,?_⟩
    · have hanswers := congrArg (List.map (·.answer)) hwatch
      rw [List.map_append] at hanswers
      exact hanswers.trans (congrArg (fun answer => _ ++ [answer]) hanswer)
    · exact (congrArg (fun stream => stream.source.items) hafter).trans hitems

end Relaying

/-- Two bodies that differ in interruptions only give the same frames and ends, one after the other.
At every moment the interruptions handed out are those of the items taken, in their order and
each of them once; one that the stream gets to is the answer behind all that the items in
front of it lead to, and nothing behind it is taken before. -/
theorem interruptions_pass (mode : Option (Bases × Nat)) (items : List Item) :
    let stream := relaying items mode
    (∀ other, undisturbed items = undisturbed other → ∀ count, ∃ count',
      frames (stream.answers count) = frames ((relaying other mode).answers count')) ∧
    (∀ count, ∃ taken, items = taken ++ (stream.after count).source.items ∧
      interruptions (stream.answers count) = (taken.filter isInterruption).map some) ∧
    ∀ before item rest, items = before ++ item :: rest → item.isInterruption = true →
      (∀ earlier ∈ before, ¬ Closes mode.isSome (some earlier)) →
      ∃ count, stream.answers (count + 1) = ledTo mode before ++ [some item] ∧
        (stream.after (count + 1)).source.items = rest := by
  intro stream
  refine ⟨fun other h => exists_same_frames h,?_,?_⟩
  · intro count
    have hitems : stream.source.items = items := by cases mode <;> rfl
    have htaken := stream.answers_takes count
    rwa [hitems] at htaken
  · rintro before item rest rfl hitem hbefore
    exact ⟨_,answers_of_interruption mode hitem hbefore rest⟩

/-- A match is cut by a failure, and a line by an empty poll; the trailers come behind both. -/
theorem interruptions_pass_cut_match :
    let bases : Bases := ⟨[97, 97],[98]⟩
    let items : List Item :=
      [.data [97], .failure "reset", .data [97, 10], .pending, .data [97], .trailers {}]
    let other : List Item := [.data [97], .data [97, 10], .data [97], .trailers {}]
    undisturbed items = undisturbed other ∧ Item.pending.isInterruption = true ∧
    (∀ earlier ∈ items.take 3, ¬ Closes true (some earlier)) ∧
    (∀ count, ∃ count', frames ((rebasing items bases 5).answers count) =
      frames ((rebasing other bases 5).answers count')) ∧
    (∃ count, (rebasing items bases 5).answers (count + 1) =
        [some (.failure "reset"), some (.data [98, 10]), some .pending] ∧
      ((rebasing items bases 5).after (count + 1)).source.items = [.data [97], .trailers {}]) := by
  intro bases items other
  have hsame : undisturbed items = undisturbed other := by decide +kernel
  have hopen : ∀ earlier ∈ items.take 3, ¬ Closes true (some earlier) := by
    simp [items, Closes, fields?]
  obtain ⟨hframes,_,hplace⟩ := interruptions_pass (some (bases, 5)) items
  have hled : ledTo (some (bases, 5)) (items.take 3) =
      [some (.failure "reset"), some (.data [98, 10])] := by decide +kernel
  obtain ⟨count,hanswers,hrest⟩ :=
    hplace (items.take 3) .pending [.data [97], .trailers {}] rfl rfl hopen
  rw [hled] at hanswers
  exact ⟨hsame,rfl,hopen,hframes other hsame,count,hanswers,hrest⟩

end BodyStream
end RebasingProxy
