import RebasingProxy.Proofs.LineBuffer

/-! # Rounds of a line buffer

A buffer may serve one body after the other. A round is a run of pushes with a finish at its
end, behind the start or an earlier finish. The bytes of a round are the rebased form
of its chunks put together, wherever the chunks end and whatever bound there is on
unfinished lines, and no round leaves a trace in a later one.
-/
namespace RebasingProxy.LineBuffer

inductive Step
  | push (chunk : Bytes)
  | finish

/-- The answer to one step, `none` when a finish has nothing to send, and the buffer after it. -/
def step (buffer : LineBuffer) : Step → Option Bytes × LineBuffer
  | .push chunk => (some (buffer.push chunk).1, (buffer.push chunk).2)
  | .finish => buffer.finish

def answers (buffer : LineBuffer) : List Step → List (Option Bytes)
  | [] => []
  | now :: later => (buffer.step now).1 :: answers (buffer.step now).2 later

def after (buffer : LineBuffer) (steps : List Step) : LineBuffer :=
  steps.foldl (fun buffer now => (buffer.step now).2) buffer

theorem answers_append (buffer : LineBuffer) (first second : List Step) :
    buffer.answers (first ++ second) =
      buffer.answers first ++ (buffer.after first).answers second := by
  induction first generalizing buffer with
  | nil => rfl
  | cons now first ih => simp [answers, after, ih (buffer.step now).2]

theorem after_append (buffer : LineBuffer) (first second : List Step) :
    buffer.after (first ++ second) = (buffer.after first).after second :=
  List.foldl_append

theorem Steady.step {buffer : LineBuffer} (h : buffer.Steady) (now : Step) :
    (buffer.step now).2.Steady ∧ (buffer.step now).2.bases = buffer.bases ∧
      (buffer.step now).2.maxLine = buffer.maxLine := by
  cases now with
  | push chunk => exact ⟨(push_settled h chunk).1,push_bases buffer chunk,push_maxLine buffer chunk⟩
  | finish =>
    simp only [LineBuffer.step, h.finish]
    exact ⟨steady_fresh _ _,rfl,rfl⟩

theorem Steady.after {buffer : LineBuffer} (h : buffer.Steady) (steps : List Step) :
    (buffer.after steps).Steady ∧ (buffer.after steps).bases = buffer.bases ∧
      (buffer.after steps).maxLine = buffer.maxLine := by
  induction steps generalizing buffer with
  | nil => exact ⟨h,rfl,rfl⟩
  | cons now steps ih =>
    obtain ⟨hnow,hbases,hmax⟩ := h.step now
    obtain ⟨hall,hallBases,hallMax⟩ := ih hnow
    exact ⟨hall,hallBases.trans hbases,hallMax.trans hmax⟩

/-- A finish leaves the buffer as it was before anything was pushed. -/
theorem after_finish (bases : Bases) (maxLine : Nat) (steps : List Step) :
    (fresh bases maxLine).after (steps ++ [.finish]) = fresh bases maxLine := by
  obtain ⟨hsteady,hbases,hmax⟩ := (steady_fresh bases maxLine).after steps
  rw [after_append]
  change ((fresh bases maxLine).after steps).finish.2 = _
  rw [hsteady.finish, hbases, hmax]
  rfl

theorem Tracks.pushes {buffer : LineBuffer} {pushed sent : Bytes} (h : buffer.Tracks pushed sent)
    (chunks : List Bytes) : ∃ outs : List Bytes, buffer.answers (chunks.map .push) = outs.map some ∧
      outs.length = chunks.length ∧
      (buffer.after (chunks.map .push)).Tracks (pushed ++ chunks.flatten)
        (sent ++ outs.flatten) := by
  induction chunks generalizing buffer pushed sent with
  | nil => exact ⟨[],rfl,rfl,by simpa [after] using h⟩
  | cons chunk chunks ih =>
    obtain ⟨outs,hanswers,hlen,htracks⟩ := ih (h.push chunk)
    refine ⟨(buffer.push chunk).1 :: outs,?_,?_,?_⟩
    · simpa [answers, step] using hanswers
    · simp [hlen]
    · simpa [after, step, List.append_assoc] using htracks

theorem after_round (bases : Bases) (maxLine : Nat) {steps : List Step}
    (h : steps = [] ∨ steps.getLast? = some .finish) :
    (fresh bases maxLine).after steps = fresh bases maxLine := by
  rcases h with rfl | h
  · rfl
  · obtain ⟨earlier,rfl⟩ := List.getLast?_eq_some_iff.mp h
    exact after_finish bases maxLine earlier

/-- In any sequence of steps, the answers to a round are the rebased form of its chunks.
The finish has nothing to send exactly when no byte is held back, and the steps
behind it are answered as if they were the first. -/
theorem answers_of_round (bases : Bases) (maxLine : Nat) (earlier later : List Step)
    (chunks : List Bytes) (h : earlier = [] ∨ earlier.getLast? = some .finish) :
    ∃ (outs : List Bytes) (last : Option Bytes),
      (fresh bases maxLine).answers (earlier ++ chunks.map .push ++ .finish :: later) =
        (fresh bases maxLine).answers earlier ++ outs.map some ++
          last :: (fresh bases maxLine).answers later ∧
      outs.length = chunks.length ∧
      outs.flatten ++ last.getD [] = bases.rebasedLines chunks.flatten ∧
      (last = none ↔
        ((fresh bases maxLine).after (earlier ++ chunks.map .push)).held = []) := by
  obtain ⟨outs,hanswers,hlen,htracks⟩ := (tracks_fresh bases maxLine).pushes chunks
  let buffer := (fresh bases maxLine).after (chunks.map .push)
  have hround := after_round bases maxLine h
  have hbefore : (fresh bases maxLine).after (earlier ++ chunks.map .push) = buffer := by
    rw [after_append, hround]
  have hbases : buffer.bases = bases := ((steady_fresh bases maxLine).after _).2.1
  have hmax : buffer.maxLine = maxLine := ((steady_fresh bases maxLine).after _).2.2
  have hfinish : buffer.finish.2 = fresh bases maxLine := by
    rw [htracks.steady.finish, hbases, hmax]
  refine ⟨outs,buffer.finish.1,?_,hlen,?_,?_⟩
  · rw [answers_append, answers_append, hround, hanswers, hbefore]
    change _ ++ buffer.finish.1 :: buffer.finish.2.answers later = _
    rw [hfinish]
  · have hsent := htracks.sent_append
    rw [hbases] at hsent
    simpa using hsent
  · rw [hbefore]
    exact finish_eq_none

/-- Behind another body, a match cut by a chunk and lines flushed at every byte. -/
theorem answers_of_round_cut_match :
    ([.push [97], .finish] : List Step).getLast? = some .finish ∧
    ∃ (outs : List Bytes) (last : Option Bytes),
      (fresh ⟨[97, 97],[98]⟩ 0).answers
          ([.push [97], .finish] ++ [[97], [97, 97, 10, 97]].map .push ++ [.finish]) =
        (fresh ⟨[97, 97],[98]⟩ 0).answers [.push [97], .finish] ++ outs.map some ++ [last] ∧
      outs.flatten ++ last.getD [] = [98, 97, 10, 97] := by
  refine ⟨rfl,?_⟩
  obtain ⟨outs,last,hanswers,_,hbytes,_⟩ := answers_of_round ⟨[97, 97],[98]⟩ 0
    [.push [97], .finish] [] [[97], [97, 97, 10, 97]] (Or.inr rfl)
  have hbody : Bases.rebasedLines ⟨[97, 97],[98]⟩ [97, 97, 97, 10, 97] = [98, 97, 10, 97] := by
    cbv
  exact ⟨outs,last,hanswers,hbytes.trans hbody⟩

end RebasingProxy.LineBuffer
