import RebasingProxy.Proofs.Bases.Lines
import RebasingProxy.Proofs.LineBuffer

/-! # A streamed body and the body as a whole

What a line buffer sends of a body is what one pass over the whole body gives, as long as the
internal base lies in one line; otherwise it sends the body as it came. It never changes a body
without need, and how much longer or shorter a body gets is decided by the number of its
occurrences.
-/
namespace RebasingProxy.LineBuffer

/-- A base without a line feed is replaced as if there were no lines, chunks or bounds. One with a
line feed is never replaced. -/
theorem streamed_eq_pass (bases : Bases) (maxLine : Nat) (chunks : List Bytes) :
    let body := chunks.flatten
    let sent := (fresh bases maxLine).streamed chunks
    (Bytes.lineFeed ∉ bases.internal → bases.pass false body = ⟨sent, body.length⟩) ∧
      (Bytes.lineFeed ∈ bases.internal → sent = body) := by
  intro body sent
  have hsent : sent = bases.rebasedLines body := streamed_fresh bases maxLine chunks
  refine ⟨?_,?_⟩
  · intro hfree
    have hready : (bases.pass false body).ready = sent := by
      rw [hsent, bases.rebasedLines_eq_rebasedLine hfree]
      exact bases.rebase_eq_rebasedLine body
    have htaken : (bases.pass false body).taken = body.length := rfl
    rw [← hready, ← htaken]
  · intro hbreak
    rw [hsent, bases.rebasedLines_of_lineFeed_mem hbreak]

/-- A match cut by a chunk, with lines flushed at every byte; a base that ends in a line feed. -/
theorem streamed_eq_pass_cut_match :
    Bytes.lineFeed ∉ ([97, 97] : Bytes) ∧ Bytes.lineFeed ∈ ([97, 10] : Bytes) ∧
    Bases.pass ⟨[97, 97],[98]⟩ false [97, 97, 97, 10, 97] =
      ⟨(fresh ⟨[97, 97],[98]⟩ 0).streamed [[97], [97, 97, 10, 97]], 5⟩ ∧
    (fresh ⟨[97, 97],[98]⟩ 0).streamed [[97], [97, 97, 10, 97]] = [98, 97, 10, 97] ∧
    (fresh ⟨[97, 10],[98]⟩ 0).streamed [[97], [10, 97]] = [97, 10, 97] := by
  have hfree : Bytes.lineFeed ∉ ([97, 97] : Bytes) := by decide
  have hbreak : Bytes.lineFeed ∈ ([97, 10] : Bytes) := by decide
  have hpass := (streamed_eq_pass ⟨[97, 97],[98]⟩ 0 [[97], [97, 97, 10, 97]]).1 hfree
  have hkept := (streamed_eq_pass ⟨[97, 10],[98]⟩ 0 [[97], [10, 97]]).2 hbreak
  have hwhole : Bases.pass ⟨[97, 97],[98]⟩ false [97, 97, 97, 10, 97] =
      ⟨[98, 97, 10, 97],5⟩ := by decide +kernel
  have hsent := congrArg Pass.ready (hpass.symm.trans hwhole)
  exact ⟨hfree,hbreak,hpass,hsent,hkept⟩

/-- A body is sent as it came only where no line has the internal base or it is replaced by itself.
The length changes by the same amount for each of the leftmost non-overlapping occurrences, counted
line by line, whatever the chunks and the bound. -/
theorem streamed_eq_self_iff {bases : Bases} (hp : bases.internal ≠ []) (maxLine : Nat)
    (chunks : List Bytes) :
    let body := chunks.flatten
    let sent := (fresh bases maxLine).streamed chunks
    (sent = body ↔ bases.internal = bases.external ∨
      ∀ line ∈ body.splitOn Bytes.lineFeed, ¬ bases.internal <:+: line) ∧
    ∃ cuts, bases.LinesCut body cuts ∧ (∀ cuts', bases.LinesCut body cuts' → cuts' = cuts) ∧
      let count := (cuts.flatMap fun cut => cut.1).length
      sent.length + count * bases.internal.length =
        body.length + count * bases.external.length := by
  intro body sent
  have hsent : sent = bases.rebasedLines body := streamed_fresh bases maxLine chunks
  have hcuts := bases.linesCut_gaps hp body
  rw [hsent]
  refine ⟨bases.rebasedLines_eq_self_iff hp body,_,hcuts,?_,?_⟩
  · intro cuts' h
    exact hcuts.unique hp h
  · rw [hcuts.length_pieces hp]
    exact bases.length_rebasedLines body

/-- Two occurrences in a line, cut by chunks, are replaced by the same bytes turned round. -/
theorem streamed_eq_self_iff_turned :
    let bases : Bases := ⟨[97, 98],[98, 97]⟩
    let body : Bytes := [97, 98, 97, 98, 10, 98]
    let sent := (fresh bases 0).streamed [[97], [98, 97], [98, 10, 98]]
    bases.internal ≠ [] ∧ sent ≠ body ∧
    ∃ cuts, bases.LinesCut body cuts ∧ (cuts.flatMap fun cut => cut.1).length = 2 ∧
      sent.length + 2 * 2 = body.length + 2 * 2 := by
  intro bases body sent
  have hp : bases.internal ≠ [] := List.cons_ne_nil _ _
  obtain ⟨hself,cuts,hcuts,_,hlen⟩ :=
    streamed_eq_self_iff hp 0 [[97], [98, 97], [98, 10, 98]]
  have hcount : (cuts.flatMap fun cut => cut.1).length = 2 := by
    rw [hcuts.length_pieces hp]
    decide +kernel
  have hline : [97, 98, 97, 98] ∈ body.splitOn Bytes.lineFeed := by decide
  have hinside : bases.internal <:+: [97, 98, 97, 98] := by decide
  refine ⟨hp,?_,cuts,hcuts,hcount,?_⟩
  · intro hkept
    rcases hself.mp hkept with hsame | hnone
    · exact absurd hsame (by decide)
    · exact hnone _ hline hinside
  · rw [hcount] at hlen
    exact hlen

end RebasingProxy.LineBuffer
