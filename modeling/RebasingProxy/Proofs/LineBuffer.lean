import RebasingProxy.LineBuffer
import RebasingProxy.Proofs.Bases

/-! # What a line buffer sends

A steady buffer holds the end of what was pushed, and that end has no line feed. Every push
settles a beginning of the held bytes and the chunk, so the bytes sent so far are the rebased
form of everything but the bytes held, and a finish adds the rebased form of those.
-/
namespace RebasingProxy.LineBuffer
open Occurrence

/-- The held bytes lie in one line, all of them are known to, and their number is bounded. -/
structure Steady (buffer : LineBuffer) : Prop where
  free : Bytes.lineFeed ∉ buffer.held
  scanned : buffer.scanned = buffer.held.length
  bounded : buffer.held.length ≤ max buffer.maxLine buffer.bases.overlap

def fresh (bases : Bases) (maxLine : Nat) : LineBuffer := { bases := bases, maxLine := maxLine }

theorem steady_fresh (bases : Bases) (maxLine : Nat) : (fresh bases maxLine).Steady :=
  ⟨by simp [fresh],rfl,by simp [fresh]⟩

theorem cuts_prependFirst {front text last : Bytes} {lines : List Bytes}
    (hf : Bytes.lineFeed ∉ front) (h : Cuts [Bytes.lineFeed] text lines last) :
    Cuts [Bytes.lineFeed] (front ++ text) (prependFirst front (lines, last)).1
      (prependFirst front (lines, last)).2 := by
  cases h with
  | done h =>
    exact .done (passedOver_singleton.mpr (by simp [hf, passedOver_singleton.mp h]))
  | found h rest =>
    rw [← List.append_assoc]
    exact .found (passedOver_singleton.mpr (by simp [hf, passedOver_singleton.mp h])) rest

theorem cuts_cutLines {scanned : Nat} {text : Bytes} (h : Bytes.lineFeed ∉ text.take scanned) :
    Cuts [Bytes.lineFeed] text (cutLines scanned text).1 (cutLines scanned text).2 := by
  have hcuts := cuts_prependFirst h (cuts_gaps (List.cons_ne_nil _ _) (text.drop scanned))
  rwa [List.take_append_drop] at hcuts

@[simp] theorem push_bases (buffer : LineBuffer) (chunk : Bytes) :
    (buffer.push chunk).2.bases = buffer.bases := by
  simp only [push]
  split <;> rfl

@[simp] theorem push_maxLine (buffer : LineBuffer) (chunk : Bytes) :
    (buffer.push chunk).2.maxLine = buffer.maxLine := by
  simp only [push]
  split <;> rfl

theorem Steady.notMem_take {buffer : LineBuffer} (h : buffer.Steady) (chunk : Bytes) :
    Bytes.lineFeed ∉ (buffer.held ++ chunk).take buffer.scanned := by
  rw [h.scanned, List.take_left]
  exact h.free

/-- A push settles a beginning of the held bytes and the chunk, and holds the rest. -/
theorem push_settled {buffer : LineBuffer} (hb : buffer.Steady) (chunk : Bytes) :
    (buffer.push chunk).2.Steady ∧ ∃ taken,
      buffer.held ++ chunk = taken ++ (buffer.push chunk).2.held ∧
      buffer.bases.Settled taken (buffer.push chunk).2.held (buffer.push chunk).1 := by
  have hcuts := cuts_cutLines (hb.notMem_take chunk)
  generalize hlines : (cutLines buffer.scanned (buffer.held ++ chunk)).1 = lines at hcuts
  generalize hrest : (cutLines buffer.scanned (buffer.held ++ chunk)).2 = rest at hcuts
  have htext := hcuts.text_eq
  obtain ⟨hlinesFree,hrestFree⟩ := hcuts.notMem
  have hcompleted := Bases.settled_lines buffer.bases hlinesFree rest
  simp only [push, hlines, hrest, Bases.rebase_eq_rebasedLine]
  by_cases hlong : rest.length > buffer.maxLine
  · simp only [if_pos hlong]
    obtain ⟨taken,held,hsplit,_,hdrop,hshort,hline⟩ := buffer.bases.pass_hold rest
    rw [hsplit, List.mem_append, not_or] at hrestFree
    have hflushed := Bases.settled_of_rebasedLine hrestFree.1 hline
    rw [hdrop]
    refine ⟨⟨hrestFree.2,rfl,?_⟩,_,?_,hcompleted.append hflushed ((List.append_nil _).trans hsplit)⟩
    · exact hshort.trans (Nat.le_max_right _ _)
    · rw [htext, hsplit, List.append_assoc]
  · simp only [if_neg hlong]
    refine ⟨⟨hrestFree,rfl,?_⟩,_,htext,hcompleted⟩
    exact (Nat.le_of_not_lt hlong).trans (Nat.le_max_left _ _)

/-- What a buffer has done with the bytes pushed since its last finish: all but the held
ones are settled, and their rebased form was sent. -/
structure Tracks (buffer : LineBuffer) (pushed sent : Bytes) : Prop where
  steady : buffer.Steady
  settled : ∃ taken, pushed = taken ++ buffer.held ∧
    buffer.bases.Settled taken buffer.held sent

theorem tracks_fresh (bases : Bases) (maxLine : Nat) : (fresh bases maxLine).Tracks [] [] :=
  ⟨steady_fresh bases maxLine,[],rfl,Bases.settled_nil _⟩

theorem Tracks.push {buffer : LineBuffer} {pushed sent : Bytes} (h : buffer.Tracks pushed sent)
    (chunk : Bytes) : (buffer.push chunk).2.Tracks (pushed ++ chunk)
      (sent ++ (buffer.push chunk).1) := by
  obtain ⟨taken,hpushed,hsettled⟩ := h.settled
  obtain ⟨hsteady,more,htext,hmore⟩ := push_settled h.steady chunk
  refine ⟨hsteady,taken ++ more,?_,?_⟩
  · rw [hpushed, List.append_assoc, htext, List.append_assoc]
  · rw [push_bases]
    exact hsettled.append hmore htext

theorem Tracks.sent_append {buffer : LineBuffer} {pushed sent : Bytes}
    (h : buffer.Tracks pushed sent) :
    sent ++ buffer.finish.1.getD [] = buffer.bases.rebasedLines pushed := by
  obtain ⟨taken,rfl,hsettled⟩ := h.settled
  have hwhole := hsettled buffer.held (Or.inl List.prefix_rfl)
  rw [hwhole, buffer.bases.rebasedLines_of_notMem h.steady.free]
  by_cases hheld : buffer.held = []
  · simp [finish, hheld, Bases.rebasedLine]
  · simp [finish, hheld, Bases.rebase_eq_rebasedLine]

/-- The bytes sent when a body arrives in the given chunks and then ends. -/
def streamed (buffer : LineBuffer) : List Bytes → Bytes
  | [] => buffer.finish.1.getD []
  | chunk :: chunks => (buffer.push chunk).1 ++ streamed (buffer.push chunk).2 chunks

theorem Tracks.append_streamed {buffer : LineBuffer} {pushed sent : Bytes}
    (h : buffer.Tracks pushed sent) (chunks : List Bytes) :
    sent ++ buffer.streamed chunks = buffer.bases.rebasedLines (pushed ++ chunks.flatten) := by
  induction chunks generalizing buffer pushed sent with
  | nil => simpa [streamed] using h.sent_append
  | cons chunk chunks ih =>
    have hrest := ih (h.push chunk)
    rw [push_bases] at hrest
    simpa [streamed] using hrest

theorem streamed_fresh (bases : Bases) (maxLine : Nat) (chunks : List Bytes) :
    (fresh bases maxLine).streamed chunks = bases.rebasedLines chunks.flatten :=
  (tracks_fresh bases maxLine).append_streamed chunks

theorem finish_eq_none {buffer : LineBuffer} : buffer.finish.1 = none ↔ buffer.held = [] := by
  by_cases hheld : buffer.held = [] <;> simp [finish, hheld]

theorem Steady.finish {buffer : LineBuffer} (h : buffer.Steady) :
    buffer.finish.2 = fresh buffer.bases buffer.maxLine := by
  obtain ⟨bases,maxLine,held,scanned⟩ := buffer
  by_cases hheld : held = []
  · have hscanned : scanned = 0 := by simpa [hheld] using h.scanned
    simp [LineBuffer.finish, fresh, hheld, hscanned]
  · simp [LineBuffer.finish, fresh, hheld]

end RebasingProxy.LineBuffer
