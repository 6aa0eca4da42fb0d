import RebasingProxy.Bases
import RebasingProxy.Proofs.Occurrence

/-! # Rebasing a body line by line

The rebased form of a whole body is stated without buffers or passes: cut at the line
feeds, replace the internal base in every line, and join the lines again. A beginning of
a body is settled when its rebased form is known whatever follows in agreement with
the bytes held back behind it. Settled beginnings compose, so what holds of a completed line
and of a flushed one holds of every mixture of the two.
-/
namespace RebasingProxy.Bases
open Occurrence
variable (bases : Bases)

def rebasedLine (line : Bytes) : Bytes :=
  replaced bases.internal bases.external line

/-- The body with every line rebased on its own, line feeds as they were. -/
def rebasedLines (body : Bytes) : Bytes :=
  [Bytes.lineFeed].intercalate ((body.splitOn Bytes.lineFeed).map bases.rebasedLine)

theorem rebase_eq_rebasedLine (text : Bytes) : bases.rebase text = bases.rebasedLine text := by
  by_cases hp : bases.internal = []
  · simp [rebase, pass, rebasedLine, gaps, hp]
  · have hall := (cuts_gaps hp text).replaced_eq bases.external hp
    simp [rebase, pass, rebasedLine, hall]

/-- A pass that holds bytes back takes a beginning of the text. What follows in agreement
with the bytes held back is rebased as a text of its own. -/
theorem pass_hold (text : Bytes) : ∃ taken held, text = taken ++ held ∧
    (bases.pass true text).taken = taken.length ∧
    text.drop (bases.pass true text).taken = held ∧ held.length ≤ bases.overlap ∧
    ∀ rest, Agree rest held →
      bases.rebasedLine (taken ++ rest) =
        (bases.pass true text).ready ++ bases.rebasedLine rest := by
  by_cases hp : bases.internal = []
  · refine ⟨text,[],?_,?_,?_,?_,?_⟩
    · simp
    · simp [pass, overlap, hp]
    · simp [pass, overlap, hp]
    · simp
    · intro rest _
      simp [pass, overlap, rebasedLine, gaps, hp]
  · have hcuts := cuts_gaps hp text
    generalize hpieces : (gaps bases.internal text).1 = pieces at hcuts
    generalize hend : (gaps bases.internal text).2 = last at hcuts
    -- Only the piece behind the last occurrence is cut, and it may be shorter than the overlap.
    let count := min bases.overlap last.length
    let kept := last.take (last.length - count)
    let held := last.drop (last.length - count)
    have hlast : last = kept ++ held := (List.take_append_drop _ _).symm
    have htext : text = (pieces.flatMap (· ++ bases.internal) ++ kept) ++ held := by
      rw [List.append_assoc, ← hlast]
      exact hcuts.text_eq
    have hheld : held.length = count := by
      simp only [held, count, List.length_drop]
      omega
    have hcut : kept = [] ∨ bases.internal.length ≤ held.length + 1 := by
      by_cases hshort : last.length ≤ bases.overlap
      · left
        simp only [kept, count, Nat.min_eq_right hshort, Nat.sub_self, List.take_zero]
      · right
        rw [hheld]
        simp only [count, overlap] at hshort ⊢
        omega
    have hready : (bases.pass true text).ready =
        pieces.flatMap (· ++ bases.external) ++ kept := by
      simp [pass, hpieces, hend, kept, count]
    have htaken : (bases.pass true text).taken =
        (pieces.flatMap (· ++ bases.internal) ++ kept).length := by
      have hlen := (congrArg List.length htext).trans List.length_append
      rw [hheld] at hlen
      simp only [pass, hend]
      change text.length - count = _
      omega
    refine ⟨_,held,htext,htaken,?_,?_,?_⟩
    · rw [htaken, htext, List.drop_left]
    · rw [hheld]
      exact Nat.min_le_left _ _
    · intro rest hrest
      have hall := hcuts.replaced_append bases.external hp hlast hcut hrest
      rw [hready, rebasedLine, rebasedLine]
      simpa [List.append_assoc] using hall

theorem rebasedLines_of_notMem {line : Bytes} (h : Bytes.lineFeed ∉ line) :
    bases.rebasedLines line = bases.rebasedLine line := by
  rw [rebasedLines, List.splitOn_eq_singleton h, List.map_singleton, List.intercalate_singleton]

theorem rebasedLines_line {line : Bytes} (h : Bytes.lineFeed ∉ line) (rest : Bytes) :
    bases.rebasedLines (line ++ Bytes.lineFeed :: rest) =
      bases.rebasedLine line ++ Bytes.lineFeed :: bases.rebasedLines rest := by
  rw [rebasedLines, List.splitOn_append_cons_self_of_not_mem h, List.map_cons,
    List.intercalate_cons_of_ne_nil (by simp)]
  simp [rebasedLines]

theorem rebasedLines_lines {lines : List Bytes} (h : ∀ line ∈ lines, Bytes.lineFeed ∉ line)
    (rest : Bytes) :
    bases.rebasedLines (lines.flatMap (· ++ [Bytes.lineFeed]) ++ rest) =
      lines.flatMap (fun line => bases.rebasedLine line ++ [Bytes.lineFeed]) ++
        bases.rebasedLines rest := by
  induction lines with
  | nil => rfl
  | cons line lines ih =>
    have hline := bases.rebasedLines_line (h line List.mem_cons_self)
      (lines.flatMap (· ++ [Bytes.lineFeed]) ++ rest)
    rw [ih (fun other hother => h other (List.mem_cons_of_mem line hother))] at hline
    simpa using hline

/-- The bytes taken have been sent in their final form: whatever follows in agreement with
the bytes held back is rebased as if the body began there. -/
def Settled (taken held sent : Bytes) : Prop :=
  ∀ rest, Agree rest held →
    bases.rebasedLines (taken ++ rest) = sent ++ bases.rebasedLines rest

variable {bases}

theorem settled_nil (held : Bytes) : bases.Settled [] held [] := fun _ _ => rfl

theorem settled_lines (bases : Bases) {lines : List Bytes}
    (h : ∀ line ∈ lines, Bytes.lineFeed ∉ line) (held : Bytes) :
    bases.Settled (lines.flatMap (· ++ [Bytes.lineFeed])) held
      (lines.flatMap fun line => bases.rebasedLine line ++ [Bytes.lineFeed]) :=
  fun rest _ => bases.rebasedLines_lines h rest

/-- What is true of the end of one line is true of the body: the next line feed comes
behind the bytes that matter. -/
theorem settled_of_rebasedLine {taken held sent : Bytes} (h : Bytes.lineFeed ∉ taken)
    (hline : ∀ rest, Agree rest held →
      bases.rebasedLine (taken ++ rest) = sent ++ bases.rebasedLine rest) :
    bases.Settled taken held sent := by
  intro rest hrest
  by_cases hmem : Bytes.lineFeed ∈ rest
  · obtain ⟨line,more,rfl,hfree⟩ := List.eq_append_cons_of_mem hmem
    have hagree : Agree line held := hrest.of_prefix (List.prefix_append _ _)
    have hboth : Bytes.lineFeed ∉ taken ++ line := by simp [h, hfree]
    rw [← List.append_assoc, bases.rebasedLines_line hboth, bases.rebasedLines_line hfree,
      hline line hagree]
    simp
  · have hboth : Bytes.lineFeed ∉ taken ++ rest := by simp [h, hmem]
    rw [bases.rebasedLines_of_notMem hboth, bases.rebasedLines_of_notMem hmem, hline rest hrest]

/-- Settled beginnings compose: the second one may begin with bytes the first held back. -/
theorem Settled.append {taken held sent more taken' held' sent' : Bytes}
    (h : bases.Settled taken held sent) (h' : bases.Settled taken' held' sent')
    (heq : held ++ more = taken' ++ held') :
    bases.Settled (taken ++ taken') held' (sent ++ sent') := by
  intro rest hrest
  have hagree : Agree (taken' ++ rest) held := by
    have hwhole := hrest.append_left taken'
    rw [← heq] at hwhole
    exact (hwhole.symm.of_prefix (List.prefix_append held more)).symm
  rw [List.append_assoc, h _ hagree, h' rest hrest, List.append_assoc]

theorem Settled.sent_eq {taken held sent : Bytes} (h : bases.Settled taken held sent) :
    sent = bases.rebasedLines taken := by
  have hempty := h [] (Or.inl List.nil_prefix)
  have hnil : bases.rebasedLines [] = [] := by
    rw [bases.rebasedLines_of_notMem List.not_mem_nil, rebasedLine, replaced_nil]
  simpa [hnil] using hempty.symm

end RebasingProxy.Bases
