import RebasingProxy.Path
import RebasingProxy.Proofs.Occurrence

/-! # Paths under the bind path

A path that is served under the bind path begins with it, and goes on only if the bind path
ends in a slash. So the occurrence that is replaced is the one in front.
-/
namespace RebasingProxy.Path

theorem endsInSlash_append_slash (path : String) : endsInSlash (path ++ "/") = true := by
  simp [endsInSlash]

theorem isBoundBy_iff {path bindPath : String} :
    isBoundBy path bindPath = true ↔
      ∃ rest, path = bindPath ++ rest ∧ (rest = "" ∨ endsInSlash bindPath = true) := by
  by_cases hslash : endsInSlash bindPath = true
  · simp only [isBoundBy, hslash, if_true, List.isPrefixOf_iff_prefix, or_true, and_true]
    constructor
    · rintro ⟨rest,hrest⟩
      refine ⟨String.ofList rest,String.toList_inj.mp ?_⟩
      simpa using hrest.symm
    · rintro ⟨rest,rfl⟩
      exact ⟨rest.toList,by simp⟩
  · simp only [isBoundBy, hslash, if_false, beq_iff_eq, Bool.false_eq_true, or_false]
    constructor
    · rintro rfl
      exact ⟨"",by simp⟩
    · rintro ⟨rest,rfl,rfl⟩
      simp

theorem rebased_append (bindPath backendPath rest : String) :
    rebased (bindPath ++ rest) bindPath backendPath = backendPath ++ rest := by
  have hmatch : Occurrence.firstMatch? bindPath.toList (bindPath ++ rest).toList =
      some ([],rest.toList) := by
    rw [String.toList_append]
    exact Occurrence.firstMatch?_append _ _
  rw [rebased, hmatch]
  apply String.toList_inj.mp
  simp

end RebasingProxy.Path
