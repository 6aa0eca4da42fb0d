import RebasingProxy.Config
import RebasingProxy.Proofs.Bases.Lines
import RebasingProxy.Proofs.LineBuffer

/-! # Bodies under the external base

A body whose links stand under the external base already should come through as it is. It does
unless the internal base is a proper part of the external one: then every link gets the external
base once more, and the body grows with every pass through the proxy.
-/
namespace RebasingProxy

namespace Bases
open Occurrence
variable (bases : Bases)

/-- Every occurrence of the internal base lies inside an occurrence of the external one. -/
def Covered (body : Bytes) : Prop :=
  ∀ before after, body = before ++ (bases.internal ++ after) →
    ∃ before' after', body = before' ++ (bases.external ++ after') ∧
      before' <+: before ∧ after' <:+ after

theorem covered_external : bases.Covered bases.external :=
  fun _ _ _ => ⟨[],[],by simp,List.nil_prefix,List.nil_suffix⟩

variable {bases}

theorem Covered.infix_external {body : Bytes} (h : bases.Covered body)
    (hinternal : bases.internal <:+: body) : bases.internal <:+: bases.external := by
  obtain ⟨before,after,hbody⟩ := hinternal
  obtain ⟨before',after',hbody',⟨front,rfl⟩,⟨back,rfl⟩⟩ :=
    h before after (by simpa using hbody.symm)
  have hsame : (front ++ bases.internal ++ back) ++ after' = bases.external ++ after' := by
    rw [← hbody] at hbody'
    simpa using hbody'
  exact ⟨front,back,List.append_cancel_right hsame⟩

theorem rebasedLines_of_covered (h : bases.internal = [] ∨ Bytes.lineFeed ∈ bases.internal ∨
      bases.internal = bases.external ∨ ¬ bases.internal <:+: bases.external)
    {body : Bytes} (hbody : bases.Covered body) : bases.rebasedLines body = body := by
  apply rebasedLines_eq_self
  intro line hline
  obtain ⟨hfree,hinside⟩ := Bytes.of_mem_lines hline
  rcases h with hempty | hbreak | hsame | hout
  · rw [rebasedLine, hempty, replaced_empty]
  · exact bases.rebasedLine_of_lineFeed_mem hbreak hfree
  · rw [rebasedLine, hsame, replaced_self]
  · exact replaced_of_not_infix _ fun h => hout (hbody.infix_external (h.trans hinside))

/-- A proper part of the external base is put in its own place again. -/
theorem length_external_lt (hp : bases.internal ≠ []) (hfree : Bytes.lineFeed ∉ bases.internal)
    (hne : bases.internal ≠ bases.external) (h : bases.internal <:+: bases.external) :
    bases.external.length < (bases.rebasedLines bases.external).length := by
  have hpos := bases.occurrences_pos hp (Bytes.exists_line_of_infix hfree h)
  have hlen := bases.length_rebasedLines bases.external
  have hshorter : bases.internal.length < bases.external.length :=
    lt_of_le_of_ne h.length_le fun hsame => hne (h.eq_of_length hsame)
  have hmore := Nat.mul_lt_mul_of_pos_left hshorter hpos
  omega

end Bases

/-- Streaming leaves the bodies under the external base alone, in any chunks, unless the internal
base is a proper part of the external one and can stand in a line. -/
theorem Config.keeps_covered_iff (config : Config) :
    (∀ chunks : List Bytes, config.bases.Covered chunks.flatten →
      (LineBuffer.fresh config.bases config.maxLine).streamed chunks = chunks.flatten) ↔
    config.bases.internal = [] ∨ Bytes.lineFeed ∈ config.bases.internal ∨
      config.bases.internal = config.bases.external ∨
      ¬ config.bases.internal <:+: config.bases.external := by
  constructor
  · intro hkeeps
    by_contra hnot
    simp only [not_or, not_not] at hnot
    obtain ⟨hp,hfree,hne,hinside⟩ := hnot
    have hkept := hkeeps [config.bases.external] (by simpa using config.bases.covered_external)
    rw [LineBuffer.streamed_fresh, List.flatten_singleton] at hkept
    exact absurd (congrArg List.length hkept) (Bases.length_external_lt hp hfree hne hinside).ne'
  · intro h chunks hcovered
    rw [LineBuffer.streamed_fresh]
    exact Bases.rebasedLines_of_covered h hcovered

/-- The default path of the backend begins every bind path, which is then put in once more. -/
theorem Config.not_keeps_covered_below_root :
    let config : Config := { bindPath := "/x/" }
    let body := Bytes.ofText ":8090/x/"
    config.validate = .ok () ∧ config.bases.Covered body ∧
      (LineBuffer.fresh config.bases config.maxLine).streamed [body] = Bytes.ofText ":8090/x/x/" ∧
      (LineBuffer.fresh config.bases config.maxLine).streamed [body] ≠ body := by
  intro config body
  have hbases : config.bases = ⟨Bytes.ofText ":8090/",Bytes.ofText ":8090/x/"⟩ := by decide
  have hlines : Bases.rebasedLines ⟨Bytes.ofText ":8090/",Bytes.ofText ":8090/x/"⟩
      (Bytes.ofText ":8090/x/") = Bytes.ofText ":8090/x/x/" := by decide +kernel
  have hstreamed : (LineBuffer.fresh config.bases config.maxLine).streamed [body] =
      Bytes.ofText ":8090/x/x/" := by
    rw [LineBuffer.streamed_fresh, List.flatten_singleton, hbases]
    exact hlines
  have hcovered : config.bases.Covered body := by
    rw [hbases]
    exact Bases.covered_external _
  refine ⟨by decide,hcovered,hstreamed,?_⟩
  rw [hstreamed]
  decide

end RebasingProxy
