import RebasingProxy.Proofs.BodyStream.Ending
import RebasingProxy.Proofs.Config

/-! # No frame without data

A chunk that completes nothing leads to no frame, but the end of a body hands out whatever its
unfinished line has become. That could only be nothing if the line were made of occurrences of the
internal base and there were no external base to put in their places. An accepted configuration
has a bind path, and so it has an external base, which the line buffer keeps in every poll.
-/
namespace RebasingProxy

theorem Bases.rebase_ne_nil (bases : Bases) (hexternal : bases.external ≠ []) {text : Bytes}
    (h : text ≠ []) : bases.rebase text ≠ [] := by
  rw [rebase_eq_rebasedLine]
  exact Occurrence.replaced_ne_nil bases.external hexternal h

namespace LineBuffer

@[simp] theorem finish_bases (buffer : LineBuffer) : buffer.finish.2.bases = buffer.bases := by
  unfold finish
  split <;> rfl

theorem finish_ne_nil {buffer : LineBuffer} (h : buffer.bases.external ≠ []) :
    buffer.finish.1 ≠ some [] := by
  unfold finish
  split
  · exact (Option.some_ne_none _).symm
  · rename_i hheld
    intro hnil
    have hrest : buffer.held ≠ [] := by simpa using hheld
    exact buffer.bases.rebase_ne_nil h hrest (Option.some.inj hnil)

end LineBuffer

namespace BodyStream

def RebasesWith (bases : Bases) (stream : BodyStream) : Prop :=
  ∃ lines, stream.lines = some lines ∧ lines.bases = bases

section Polls
variable {bases : Bases} {lines : LineBuffer}

theorem rebasesWith_close (h : lines.bases = bases) (source : Source)
    (trailers : Option Headers) : RebasesWith bases (close source lines trailers).stream := by
  refine ⟨lines.finish.2,?_,?_⟩
  · cases hrest : lines.finish.1 <;> simp [close, hrest, pollDone]
  · rw [LineBuffer.finish_bases, h]

theorem close_ne_nil (h : lines.bases.external ≠ []) (source : Source)
    (trailers : Option Headers) : (close source lines trailers).answer ≠ some (.data []) := by
  have hfinish := LineBuffer.finish_ne_nil h
  cases hrest : lines.finish.1 with
  | some out =>
    intro hanswer
    have hout : out = [] := by simpa [close, hrest] using hanswer
    exact hfinish (hrest.trans (congrArg some hout))
  | none => cases trailers <;> simp [close, hrest, pollDone]

theorem rebasesWith_pollLines (h : lines.bases = bases) (endsReported : Nat) (items : List Item) :
    RebasesWith bases (pollLines endsReported lines items).stream := by
  induction items generalizing lines with
  | nil => exact rebasesWith_close h _ _
  | cons item items ih =>
    cases item with
    | data chunk =>
      have hpush : (lines.push chunk).2.bases = bases := by rw [LineBuffer.push_bases, h]
      by_cases hout : (lines.push chunk).1.isEmpty
      · simp only [pollLines, if_pos hout]
        exact ih hpush
      · simp only [pollLines, if_neg hout]
        exact ⟨_,rfl,hpush⟩
    | trailers fields => exact rebasesWith_close h _ _
    | failure reason => exact ⟨_,rfl,h⟩
    | pending => exact ⟨_,rfl,h⟩

theorem pollLines_ne_nil (h : lines.bases.external ≠ []) (endsReported : Nat)
    (items : List Item) : (pollLines endsReported lines items).answer ≠ some (.data []) := by
  induction items generalizing lines with
  | nil => exact close_ne_nil h _ _
  | cons item items ih =>
    cases item with
    | data chunk =>
      by_cases hout : (lines.push chunk).1.isEmpty
      · simp only [pollLines, if_pos hout]
        apply ih
        rw [LineBuffer.push_bases]
        exact h
      · simp only [pollLines, if_neg hout]
        intro hanswer
        exact hout (by simpa using hanswer)
    | trailers fields => exact close_ne_nil h _ _
    | failure reason => simp [pollLines]
    | pending => simp [pollLines]

variable {stream : BodyStream}

/-- A poll changes what the line buffer holds, but not its bases. -/
theorem RebasesWith.poll (h : RebasesWith bases stream) : RebasesWith bases stream.poll.stream := by
  obtain ⟨lines,hlines,hbases⟩ := h
  cases hdone : stream.done with
  | true =>
    rw [poll_of_done hdone]
    exact ⟨lines,hlines,hbases⟩
  | false =>
    simp only [BodyStream.poll, hdone, hlines]
    exact rebasesWith_pollLines hbases _ _

theorem RebasesWith.after (h : RebasesWith bases stream) (count : Nat) :
    RebasesWith bases (stream.after count) := by
  induction count generalizing stream with
  | zero => exact h
  | succ count ih => exact ih h.poll

theorem RebasesWith.answer_ne_nil (h : RebasesWith bases stream) (hexternal : bases.external ≠ []) :
    stream.poll.answer ≠ some (.data []) := by
  obtain ⟨lines,hlines,rfl⟩ := h
  cases hdone : stream.done with
  | true =>
    rw [poll_of_done hdone]
    cases stream.trailers <;> simp
  | false =>
    simp only [BodyStream.poll, hdone, hlines]
    exact pollLines_ne_nil hexternal _ _

end Polls

theorem rebasesWith_rebasing (items : List Item) (bases : Bases) (maxLine : Nat) :
    RebasesWith bases (rebasing items bases maxLine) := ⟨_,rfl,rfl⟩

/-- Under an accepted configuration no poll of a rebased body hands out an empty frame, whatever the
backend's body answers and however often it is polled. -/
theorem frame_ne_nil {config : Config} (h : config.validate = .ok ()) (items : List Item)
    (count : Nat) :
    ((rebasing items config.bases config.maxLine).after count).poll.answer ≠ some (.data []) := by
  have hrebases := rebasesWith_rebasing items config.bases config.maxLine
  exact (hrebases.after count).answer_ne_nil (Config.external_ne_nil h)

/-- The unfinished line is nothing but an occurrence, and it goes out in front of the trailers. -/
theorem frame_ne_nil_occurrence :
    let config : Config := { bindPath := "/x" }
    let stream := rebasing [.data [], .data (Bytes.ofText ":8090/"), .pending, .trailers {}]
      config.bases config.maxLine
    config.validate = .ok () ∧ (∀ count, (stream.after count).poll.answer ≠ some (.data [])) ∧
      (stream.after 1).poll.answer = some (.data (Bytes.ofText ":8090/x")) := by
  intro config stream
  have hvalid : config.validate = .ok () := by decide
  exact ⟨hvalid,frame_ne_nil hvalid _,by decide +kernel⟩

/-- Without any external base the same body ends in an empty frame, but no such configuration is
accepted. -/
example :
    let config : Config := { bindAddress := "", bindPath := "", backendPath := "a" }
    let stream := rebasing [.data (Bytes.ofText "a")] config.bases config.maxLine
    config.validate ≠ .ok () ∧ stream.poll.answer = some (.data []) := by
  decide +kernel

end BodyStream
end RebasingProxy
