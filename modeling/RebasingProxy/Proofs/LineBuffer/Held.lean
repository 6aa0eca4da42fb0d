import Mathlib.Data.List.DropRight
import RebasingProxy.Proofs.LineBuffer.Rounds
import RebasingProxy.Proofs.Occurrence.Pieces

/-! # What a line buffer holds

After any steps the buffer holds an end of what was pushed since the last finish, in one line and
within a bound that does not depend on the body. All held bytes count as searched, and rightly
so: a buffer that searched them again would find no more lines.
-/
namespace RebasingProxy

def Bytes.unfinished (text : Bytes) : Bytes := text.rtakeWhile (· != lineFeed)

theorem Bytes.unfinished_of_notMem {line : Bytes} (h : lineFeed ∉ line) :
    line.unfinished = line := by
  refine List.rtakeWhile_eq_self_iff.mpr fun byte hbyte => ?_
  rw [bne_iff_ne]
  rintro rfl
  exact h hbyte

theorem Bytes.unfinished_append_cons (front rest : Bytes) :
    unfinished (front ++ lineFeed :: rest) = rest.unfinished := by
  have hrest : rest.reverse.takeWhile (· != lineFeed) =
      ((front ++ lineFeed :: rest).reverse).takeWhile (· != lineFeed) := by
    rw [List.reverse_append, List.reverse_cons, List.append_assoc, List.takeWhile_append]
    split
    · rename_i hwhole
      rw [List.singleton_append, List.takeWhile_cons_of_neg (by simp), List.append_nil]
      exact (List.takeWhile_prefix _).eq_of_length hwhole
    · rfl
  rw [unfinished, unfinished, List.rtakeWhile, List.rtakeWhile, hrest]

namespace LineBuffer
open Occurrence

theorem unfinished_of_cuts {text last : Bytes} {lines : List Bytes}
    (h : Cuts [Bytes.lineFeed] text lines last) : text.unfinished = last := by
  induction h with
  | done h => exact Bytes.unfinished_of_notMem (passedOver_singleton.mp h)
  | found _ _ ih =>
    rw [List.singleton_append, Bytes.unfinished_append_cons]
    exact ih

/-- Where the bytes passed over have no line feed, the cut is that of the whole text. -/
theorem cutLines_eq_cutLines_zero {scanned : Nat} {text : Bytes}
    (h : Bytes.lineFeed ∉ text.take scanned) : cutLines scanned text = cutLines 0 text := by
  have hwhole : Cuts [Bytes.lineFeed] text (cutLines 0 text).1 (cutLines 0 text).2 :=
    cuts_cutLines List.not_mem_nil
  obtain ⟨hlines,hlast⟩ := hwhole.unique (List.cons_ne_nil _ _) (cuts_cutLines h)
  exact Prod.ext hlines hlast

section Steady
variable {buffer : LineBuffer} (h : buffer.Steady)
include h

/-- Searching the held bytes again changes nothing. -/
theorem Steady.push_again (chunk : Bytes) :
    buffer.push chunk = { buffer with scanned := 0 }.push chunk := by
  simp only [push, cutLines_eq_cutLines_zero (h.notMem_take chunk)]

/-- A line that is too long leaves no more than the overlap behind. -/
theorem Steady.push_long (chunk : Bytes)
    (hlong : buffer.maxLine < (buffer.held ++ chunk).unfinished.length) :
    (buffer.push chunk).2.held.length ≤ buffer.bases.overlap := by
  rw [unfinished_of_cuts (cuts_cutLines (h.notMem_take chunk))] at hlong
  generalize hrest : (cutLines buffer.scanned (buffer.held ++ chunk)).2 = rest at hlong
  obtain ⟨_,held,_,_,hdrop,hshort,_⟩ := buffer.bases.pass_hold rest
  simp only [push, hrest, if_pos hlong, hdrop]
  exact hshort

theorem Steady.held_push_suffix (chunk : Bytes) :
    (buffer.push chunk).2.held <:+ buffer.held ++ chunk := by
  obtain ⟨_,taken,htext,_⟩ := push_settled h chunk
  exact ⟨taken,htext.symm⟩

end Steady

def sinceFinish (steps : List Step) : Bytes :=
  steps.foldl (fun pushed now => match now with
    | .push chunk => pushed ++ chunk
    | .finish => []) []

theorem held_suffix (bases : Bases) (maxLine : Nat) (steps : List Step) :
    ((fresh bases maxLine).after steps).held <:+ sinceFinish steps := by
  induction steps using List.reverseRecOn with
  | nil => exact List.nil_suffix
  | append_singleton steps now ih =>
    have hsteady := ((steady_fresh bases maxLine).after steps).1
    rw [after_append, sinceFinish, List.foldl_append]
    cases now with
    | push chunk =>
      obtain ⟨front,hfront⟩ := ih
      have hlonger : ((fresh bases maxLine).after steps).held ++ chunk <:+
          sinceFinish steps ++ chunk := ⟨front,by rw [← hfront, List.append_assoc]⟩
      exact (hsteady.held_push_suffix chunk).trans hlonger
    | finish =>
      have hempty : ((fresh bases maxLine).after steps).finish.2.held = [] := by
        rw [hsteady.finish]
        rfl
      exact hempty ▸ List.nil_suffix

/-- After any steps the held bytes are an end of those pushed since the last finish, without a line
feed, all of them searched, and no more than the longest line or the overlap allows. A push
that flushes leaves no more than the overlap, and no push would do anything else if
it searched all held bytes again. -/
theorem held_after_steps (bases : Bases) (maxLine : Nat) (steps : List Step) :
    let buffer := (fresh bases maxLine).after steps
    buffer.held <:+ sinceFinish steps ∧
      Bytes.lineFeed ∉ buffer.held ∧
      buffer.scanned = buffer.held.length ∧
      buffer.held.length ≤ max maxLine bases.overlap ∧
      (∀ chunk, maxLine < (buffer.held ++ chunk).unfinished.length →
        (buffer.push chunk).2.held.length ≤ bases.overlap) ∧
      ∀ chunk, buffer.push chunk = { buffer with scanned := 0 }.push chunk := by
  intro buffer
  obtain ⟨hsteady,hbases,hmax⟩ := (steady_fresh bases maxLine).after steps
  have hbound := hsteady.bounded
  rw [hmax, hbases] at hbound
  refine ⟨held_suffix bases maxLine steps,hsteady.free,hsteady.scanned,hbound,?_,?_⟩
  · intro chunk hlong
    have hshort := hsteady.push_long chunk (by rw [hmax]; exact hlong)
    rwa [hbases] at hshort
  · exact hsteady.push_again

/-- Behind a finish one byte is held, and the next chunk makes a line of three. -/
theorem held_after_steps_flushed :
    let buffer := (fresh ⟨[97, 97],[98]⟩ 2).after [.push [10, 97], .finish, .push [10, 120]]
    buffer.held = [120] ∧ buffer.held <:+ [10, 120] ∧
      2 < (buffer.held ++ [97, 97]).unfinished.length ∧
      (buffer.push [97, 97]).1 = [120, 98] ∧ (buffer.push [97, 97]).2.held.length ≤ 1 ∧
      buffer.push [97, 97] = { buffer with scanned := 0 }.push [97, 97] := by
  intro buffer
  have hheld : buffer.held = [120] := by decide +kernel
  have hlong : 2 < (buffer.held ++ [97, 97]).unfinished.length := by decide +kernel
  obtain ⟨hsuffix,_,_,_,hshort,hagain⟩ :=
    held_after_steps ⟨[97, 97],[98]⟩ 2 [.push [10, 97], .finish, .push [10, 120]]
  exact ⟨hheld,hsuffix,hlong,by decide +kernel,hshort _ hlong,hagain _⟩

end LineBuffer

end RebasingProxy
