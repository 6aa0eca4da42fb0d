import Mathlib.Data.List.Forall2
import RebasingProxy.Proofs.Bases
import RebasingProxy.Proofs.Occurrence.Pieces

/-! # What rebasing does to a body

Where the internal base can stand in a line, the lines of a body make no difference: replacing it in
each of them is replacing it in the whole. Every replacement changes the length by the same amount.
So a body keeps its length only if the bases have one length or nothing is replaced, and then
the first replacement shows: later ones cannot make up for it.
-/
namespace RebasingProxy

/-- A body is a last line, or a line in front of another body. -/
theorem Bytes.induction_lines {motive : Bytes → Prop}
    (last : ∀ line, lineFeed ∉ line → motive line)
    (line : ∀ line rest, lineFeed ∉ line → motive rest → motive (line ++ lineFeed :: rest))
    (body : Bytes) : motive body := by
  by_cases h : lineFeed ∈ body
  · obtain ⟨front,rest,hbody,hfree⟩ := List.eq_append_cons_of_mem h
    have hlen : rest.length < body.length := by
      rw [hbody, List.length_append, List.length_cons]
      omega
    rw [hbody]
    exact line front rest hfree (induction_lines last line rest)
  · exact last body h
termination_by body.length

theorem Bytes.of_mem_lines {body line : Bytes} (h : line ∈ body.splitOn lineFeed) :
    lineFeed ∉ line ∧ line <:+: body := by
  induction body using Bytes.induction_lines with
  | last only hfree =>
    rw [List.splitOn_eq_singleton hfree, List.mem_singleton] at h
    subst h
    exact ⟨hfree,List.infix_rfl⟩
  | line first rest hfree ih =>
    rw [List.splitOn_append_cons_self_of_not_mem hfree] at h
    rcases List.mem_cons.mp h with rfl | hrest
    · exact ⟨hfree,(List.prefix_append _ _).isInfix⟩
    · obtain ⟨hline,hinside⟩ := ih hrest
      exact ⟨hline,hinside.trans ⟨first ++ [lineFeed],[],by simp⟩⟩

/-- What has no line feed and is found in a body is found in one of its lines. -/
theorem Bytes.exists_line_of_infix {pattern body : Bytes} (hfree : lineFeed ∉ pattern)
    (h : pattern <:+: body) : ∃ line ∈ body.splitOn lineFeed, pattern <:+: line := by
  induction body using Bytes.induction_lines with
  | last only honly =>
    rw [List.splitOn_eq_singleton honly]
    exact ⟨only,List.mem_singleton_self only,h⟩
  | line first rest hfirst ih =>
    rw [List.splitOn_append_cons_self_of_not_mem hfirst]
    rcases Occurrence.infix_of_infix_append_cons hfree h with h | h
    · exact ⟨first,List.mem_cons_self,h⟩
    · obtain ⟨line,hline,hinside⟩ := ih h
      exact ⟨line,List.mem_cons_of_mem first hline,hinside⟩

namespace Bases
open Occurrence
variable (bases : Bases)

theorem rebasedLines_eq_self {body : Bytes}
    (h : ∀ line ∈ body.splitOn Bytes.lineFeed, bases.rebasedLine line = line) :
    bases.rebasedLines body = body := by
  rw [rebasedLines, List.map_congr_left h, List.map_id', List.intercalate_splitOn]

/-- A base with a line feed occurs in no line. -/
theorem rebasedLine_of_lineFeed_mem (h : Bytes.lineFeed ∈ bases.internal) {line : Bytes}
    (hline : Bytes.lineFeed ∉ line) : bases.rebasedLine line = line :=
  replaced_of_not_infix _ fun hinside => hline (hinside.subset h)

theorem rebasedLines_of_lineFeed_mem (h : Bytes.lineFeed ∈ bases.internal) (body : Bytes) :
    bases.rebasedLines body = body := by
  apply rebasedLines_eq_self
  intro line hline
  exact bases.rebasedLine_of_lineFeed_mem h (Bytes.of_mem_lines hline).1

/-- A base without a line feed is replaced in the lines where it is replaced in the whole. -/
theorem rebasedLines_eq_rebasedLine (h : Bytes.lineFeed ∉ bases.internal) (body : Bytes) :
    bases.rebasedLines body = bases.rebasedLine body := by
  induction body using Bytes.induction_lines with
  | last line hfree => exact bases.rebasedLines_of_notMem hfree
  | line line rest hfree ih =>
    rw [bases.rebasedLines_line hfree, ih]
    exact (replaced_append_cons bases.external h line rest).symm

def occurrences (body : Bytes) : Nat :=
  ((body.splitOn Bytes.lineFeed).flatMap fun line => (gaps bases.internal line).1).length

theorem occurrences_of_notMem {line : Bytes} (h : Bytes.lineFeed ∉ line) :
    bases.occurrences line = (gaps bases.internal line).1.length := by
  simp [occurrences, List.splitOn_eq_singleton h]

theorem occurrences_line {line : Bytes} (h : Bytes.lineFeed ∉ line) (rest : Bytes) :
    bases.occurrences (line ++ Bytes.lineFeed :: rest) =
      bases.occurrences line + bases.occurrences rest := by
  rw [bases.occurrences_of_notMem h]
  simp [occurrences, List.splitOn_append_cons_self_of_not_mem h]

theorem length_rebasedLine {line : Bytes} (h : Bytes.lineFeed ∉ line) :
    (bases.rebasedLine line).length + bases.occurrences line * bases.internal.length =
      line.length + bases.occurrences line * bases.external.length := by
  rw [bases.occurrences_of_notMem h]
  by_cases hp : bases.internal = []
  · simp [rebasedLine, gaps, hp]
  · exact (cuts_gaps hp line).length_replaced bases.external hp

theorem length_rebasedLines (body : Bytes) :
    (bases.rebasedLines body).length + bases.occurrences body * bases.internal.length =
      body.length + bases.occurrences body * bases.external.length := by
  induction body using Bytes.induction_lines with
  | last line hfree =>
    rw [bases.rebasedLines_of_notMem hfree]
    exact bases.length_rebasedLine hfree
  | line line rest hfree ih =>
    have hline := bases.length_rebasedLine hfree
    rw [bases.rebasedLines_line hfree, bases.occurrences_line hfree]
    simp only [List.length_append, List.length_cons, Nat.add_mul]
    omega

/-- No line that has the base is passed over. -/
theorem occurrences_pos (hp : bases.internal ≠ []) {body : Bytes}
    (h : ∃ line ∈ body.splitOn Bytes.lineFeed, bases.internal <:+: line) :
    0 < bases.occurrences body := by
  obtain ⟨line,hline,hinside⟩ := h
  have hpieces := Cuts.ne_nil_of_infix hp (cuts_gaps hp line) hinside
  obtain ⟨piece,hpiece⟩ := List.exists_mem_of_ne_nil _ hpieces
  exact List.length_pos_of_mem (List.mem_flatMap.mpr ⟨line,hline,hpiece⟩)

/-- Up to the first occurrence in a line the body stays as it is; there the external base comes. -/
theorem exists_first_rebased (hp : bases.internal ≠ []) {body : Bytes}
    (h : ∃ line ∈ body.splitOn Bytes.lineFeed, bases.internal <:+: line) :
    ∃ front after after', body = front ++ (bases.internal ++ after) ∧
      bases.rebasedLines body = front ++ (bases.external ++ after') := by
  induction body using Bytes.induction_lines with
  | last only hfree =>
    simp only [List.splitOn_eq_singleton hfree, List.mem_singleton, exists_eq_left] at h
    obtain ⟨before,after,htext,hline⟩ := replaced_of_infix bases.external hp h
    refine ⟨before,after,bases.rebasedLine after,htext,?_⟩
    rw [bases.rebasedLines_of_notMem hfree]
    exact hline
  | line first rest hfree ih =>
    rw [List.splitOn_append_cons_self_of_not_mem hfree] at h
    rw [bases.rebasedLines_line hfree]
    by_cases hfirst : bases.internal <:+: first
    · obtain ⟨before,after,htext,hline⟩ := replaced_of_infix bases.external hp hfirst
      refine ⟨before,after ++ Bytes.lineFeed :: rest,
        bases.rebasedLine after ++ Bytes.lineFeed :: bases.rebasedLines rest,?_,?_⟩
      · simp [htext]
      · simp [rebasedLine, hline]
    · have hrest : ∃ line ∈ rest.splitOn Bytes.lineFeed, bases.internal <:+: line := by
        simpa [hfirst] using h
      have hkept : bases.rebasedLine first = first := replaced_of_not_infix _ hfirst
      obtain ⟨front,after,after',hbody,hrebased⟩ := ih hrest
      refine ⟨first ++ Bytes.lineFeed :: front,after,after',?_,?_⟩
      · simp [hbody]
      · simp [hkept, hrebased]

/-- A body stays as it is only if no line has the internal base, or it is replaced by itself. -/
theorem rebasedLines_eq_self_iff (hp : bases.internal ≠ []) (body : Bytes) :
    bases.rebasedLines body = body ↔ bases.internal = bases.external ∨
      ∀ line ∈ body.splitOn Bytes.lineFeed, ¬ bases.internal <:+: line := by
  constructor
  · intro hself
    by_contra hnot
    simp only [not_or, not_forall, not_not, exists_prop] at hnot
    obtain ⟨hne,hline⟩ := hnot
    obtain ⟨front,after,after',hbody,hrebased⟩ := bases.exists_first_rebased hp hline
    have hpos := bases.occurrences_pos hp hline
    have hlen := bases.length_rebasedLines body
    rw [hself] at hlen hrebased
    have hsame : bases.internal.length = bases.external.length :=
      Nat.eq_of_mul_eq_mul_left hpos (Nat.add_left_cancel hlen)
    have hrest := List.append_cancel_left (hbody.symm.trans hrebased)
    exact hne (List.append_inj_left hrest hsame)
  · rintro (hsame | hnone)
    · apply rebasedLines_eq_self
      intro line _
      rw [rebasedLine, hsame, replaced_self]
    · apply rebasedLines_eq_self
      intro line hline
      exact replaced_of_not_infix _ (hnone line hline)

/-- The lines of the body, each with the pieces it is cut into at the internal base. -/
def LinesCut (body : Bytes) (cuts : List (List Bytes × Bytes)) : Prop :=
  List.Forall₂ (fun line cut => CutInto bases.internal line cut.1 cut.2)
    (body.splitOn Bytes.lineFeed) cuts

theorem linesCut_gaps (hp : bases.internal ≠ []) (body : Bytes) :
    bases.LinesCut body ((body.splitOn Bytes.lineFeed).map (gaps bases.internal)) := by
  rw [LinesCut, List.forall₂_map_right_iff, List.forall₂_same]
  intro line _
  exact (cuts_gaps hp line).cutInto hp

variable {bases}

theorem LinesCut.unique (hp : bases.internal ≠ []) {body : Bytes}
    {cuts cuts' : List (List Bytes × Bytes)} (h : bases.LinesCut body cuts)
    (h' : bases.LinesCut body cuts') : cuts' = cuts := by
  refine List.right_unique_forall₂' ?_ h' h
  intro line cut cut' hcut hcut'
  obtain ⟨hpieces,hlast⟩ := hcut'.unique hp hcut
  exact Prod.ext hpieces hlast

/-- Behind each piece in front of the last one of a line there is an occurrence. -/
theorem LinesCut.length_pieces (hp : bases.internal ≠ []) {body : Bytes}
    {cuts : List (List Bytes × Bytes)} (h : bases.LinesCut body cuts) :
    (cuts.flatMap fun cut => cut.1).length = bases.occurrences body := by
  rw [(bases.linesCut_gaps hp body).unique hp h, List.flatMap_map]
  rfl

end Bases

end RebasingProxy
