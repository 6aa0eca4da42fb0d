import RebasingProxy.Proofs.Bases
import RebasingProxy.Proofs.Occurrence.Pieces

/-! # A pass by places in the text

A pass can also go from place to place in one text and put what is ready behind a buffer that is
already there. Every stretch it copies has to lie in the text, and always does; what it puts
behind the buffer and how far it gets is the same as for the pass over the pieces. The pieces are
the only ones there are, and a pass that holds bytes back cuts nothing but the last of them,
so rebasing can go on behind it with whatever follows.
-/
namespace RebasingProxy

/-- The bytes from one place to another, if the text has both and they stand in this order. -/
def Bytes.slice? (text : Bytes) (start stop : Nat) : Option Bytes :=
  if start ≤ stop ∧ stop ≤ text.length then some ((text.take stop).drop start) else none

theorem Bytes.slice?_append (front middle back : Bytes) :
    (front ++ (middle ++ back)).slice? front.length (front.length + middle.length) =
      some middle := by
  have hbounds : front.length ≤ front.length + middle.length ∧
      front.length + middle.length ≤ (front ++ (middle ++ back)).length := by
    simp only [List.length_append]
    omega
  rw [slice?, if_pos hbounds, List.take_length_add_append, List.take_left, List.drop_left]

theorem Bytes.slice?_end (front rest : Bytes) :
    (front ++ rest).slice? front.length (front ++ rest).length = some rest := by
  have hwhole := slice?_append front rest []
  rwa [List.append_nil, ← List.length_append] at hwhole

theorem Bytes.slice?_eq_some {text part : Bytes} {start stop : Nat}
    (h : text.slice? start stop = some part) :
    start ≤ stop ∧ stop ≤ text.length ∧ part.length = stop - start := by
  rw [slice?] at h
  split at h
  · rename_i hbounds
    obtain rfl := Option.some.inj h
    refine ⟨hbounds.1,hbounds.2,?_⟩
    rw [List.length_drop, List.length_take, Nat.min_eq_left hbounds.2]
  · exact absurd h (Option.some_ne_none part).symm

namespace Bases
open Occurrence
variable (bases : Bases)

/-- Puts what stands from `start` on behind `out`, with the internal base replaced. The place up to
which the text is then taken comes with it; there is no result if a stretch is not in the text. -/
def scanFrom (hp : bases.internal ≠ []) (holdTail : Bool) (text : Bytes) (start : Nat)
    (out : Bytes) : Option (Bytes × Nat) :=
  match _hrest : text.slice? start text.length with
  | none => none
  | some rest =>
    match _hfound : firstMatch? bases.internal rest with
    | some (before, _) =>
      (text.slice? start (start + before.length)).bind fun gap =>
        scanFrom hp holdTail text (start + before.length + bases.internal.length)
          (out ++ gap ++ bases.external)
    | none =>
      let stop := if holdTail then max (text.length - bases.overlap) start else text.length
      (text.slice? start stop).map fun gap => (out ++ gap, stop)
termination_by text.length - start
decreasing_by
  obtain ⟨_,_,hlen⟩ := Bytes.slice?_eq_some _hrest
  have hpos := List.length_pos_iff.mpr hp
  rw [append_of_firstMatch? _hfound, List.length_append, List.length_append] at hlen
  omega

def passOnto (holdTail : Bool) (text out : Bytes) : Option (Bytes × Nat) :=
  if hp : bases.internal = [] then some (out ++ text, text.length)
  else bases.scanFrom hp holdTail text 0 out

def heldBack (holdTail : Bool) (last : Bytes) : Nat :=
  if holdTail then min bases.overlap last.length else 0

theorem heldBack_le (holdTail : Bool) (last : Bytes) :
    bases.heldBack holdTail last ≤ last.length := by
  rw [heldBack]
  split
  · exact Nat.min_le_right _ _
  · exact Nat.zero_le _

theorem pass_of_cuts {text last : Bytes} {pieces : List Bytes} (hp : bases.internal ≠ [])
    (h : Cuts bases.internal text pieces last) (holdTail : Bool) :
    bases.pass holdTail text =
      { ready := pieces.flatMap (· ++ bases.external) ++
          last.take (last.length - bases.heldBack holdTail last)
        taken := text.length - bases.heldBack holdTail last } := by
  obtain ⟨hpieces,hlast⟩ := h.unique hp (cuts_gaps hp text)
  rw [← hpieces, ← hlast]
  rfl

section Scan
variable (hp : bases.internal ≠ []) (holdTail : Bool)

theorem scanFrom_done {last : Bytes} (h : PassedOver bases.internal last []) (front out : Bytes) :
    bases.scanFrom hp holdTail (front ++ last) front.length out =
      some (out ++ last.take (last.length - bases.heldBack holdTail last),
        (front ++ last).length - bases.heldBack holdTail last) := by
  have hheld := bases.heldBack_le holdTail last
  generalize hcount : last.length - bases.heldBack holdTail last = count
  -- The overlap may reach back into `front`; then the stretch to copy is empty.
  have hstop : (if holdTail then max ((front ++ last).length - bases.overlap) front.length
      else (front ++ last).length) = front.length + (last.take count).length := by
    rw [List.length_take, List.length_append]
    cases holdTail <;>
      simp only [heldBack, Bool.false_eq_true, ↓reduceIte] at hcount ⊢ <;> omega
  have htaken : (front ++ last).length - bases.heldBack holdTail last =
      front.length + (last.take count).length := by
    rw [List.length_take, List.length_append]
    omega
  have hslice := Bytes.slice?_append front (last.take count) (last.drop count)
  rw [List.take_append_drop] at hslice
  rw [scanFrom, Bytes.slice?_end]
  dsimp only
  split
  · rename_i hfound
    rw [firstMatch?_eq_none hp h] at hfound
    contradiction
  · rw [hstop, hslice, htaken]
    rfl

theorem scanFrom_found {before : Bytes} (h : PassedOver bases.internal before bases.internal)
    (after front out : Bytes) :
    bases.scanFrom hp holdTail (front ++ (before ++ (bases.internal ++ after))) front.length out =
      bases.scanFrom hp holdTail ((front ++ before ++ bases.internal) ++ after)
        (front ++ before ++ bases.internal).length (out ++ before ++ bases.external) := by
  rw [scanFrom, Bytes.slice?_end]
  dsimp only
  split
  · rename_i hfound
    rw [firstMatch?_eq_some hp h after] at hfound
    obtain ⟨rfl,rfl⟩ := Prod.mk.inj (Option.some.inj hfound)
    rw [Bytes.slice?_append, Option.bind_some]
    simp only [List.length_append, List.append_assoc, Nat.add_assoc]
  · rename_i hfound
    rw [firstMatch?_eq_some hp h after] at hfound
    contradiction

theorem scanFrom_eq {rest last : Bytes} {pieces : List Bytes}
    (h : Cuts bases.internal rest pieces last) (front out : Bytes) :
    bases.scanFrom hp holdTail (front ++ rest) front.length out =
      some (out ++ (pieces.flatMap (· ++ bases.external) ++
          last.take (last.length - bases.heldBack holdTail last)),
        (front ++ rest).length - bases.heldBack holdTail last) := by
  induction h generalizing front out with
  | done h => exact bases.scanFrom_done hp holdTail h front out
  | found h _ ih =>
    rw [bases.scanFrom_found hp holdTail h, ih]
    simp only [List.flatMap_cons, List.append_assoc]

end Scan

/-- Wherever the buffer stands, the pass by places does what the pass over the pieces says. -/
theorem passOnto_eq (holdTail : Bool) (text out : Bytes) :
    bases.passOnto holdTail text out =
      some (out ++ (bases.pass holdTail text).ready, (bases.pass holdTail text).taken) := by
  by_cases hp : bases.internal = []
  · rw [passOnto, dif_pos hp]
    cases holdTail <;> simp [pass, gaps, overlap, hp]
  · have hcuts := cuts_gaps hp text
    have hscan := bases.scanFrom_eq hp holdTail hcuts [] out
    rw [passOnto, dif_neg hp, bases.pass_of_cuts hp hcuts]
    exact hscan

/-- Holding bytes back loses and splits nothing: no more than the overlap stays untaken, and
whatever follows, the whole is rebased by going on with the bytes that were not taken. -/
theorem rebase_across_pass (text out : Bytes) :
    ∃ sent taken, bases.passOnto true text out = some (out ++ sent, taken) ∧
      bases.pass true text = ⟨sent, taken⟩ ∧
      taken ≤ text.length ∧ text.length - taken ≤ bases.overlap ∧
      ∀ more, bases.rebase (text ++ more) = sent ++ bases.rebase (text.drop taken ++ more) := by
  obtain ⟨front,held,htext,htaken,hdrop,hshort,hrest⟩ := bases.pass_hold text
  have hlen : text.length = front.length + held.length := by rw [htext, List.length_append]
  refine ⟨_,_,bases.passOnto_eq true text out,rfl,?_,?_,?_⟩
  · omega
  · omega
  · intro more
    rw [hdrop, rebase_eq_rebasedLine, rebase_eq_rebasedLine]
    have hwhole := hrest (held ++ more) (Or.inr (List.prefix_append held more))
    rwa [← List.append_assoc, ← htext] at hwhole

/-- A text is cut at the internal base in one way. A pass by places never leaves the text, and puts
the pieces behind the buffer with the external base in between; one that holds bytes
back leaves out the overlap, or all, of the last piece. -/
theorem pass_of_pieces (hp : bases.internal ≠ []) (text : Bytes) :
    ∃ pieces last, CutInto bases.internal text pieces last ∧
      (∀ pieces' last', CutInto bases.internal text pieces' last' →
        pieces' = pieces ∧ last' = last) ∧
      (∀ holdTail out, bases.passOnto holdTail text out =
        some (out ++ (bases.pass holdTail text).ready, (bases.pass holdTail text).taken)) ∧
      bases.pass false text =
        ⟨pieces.flatMap (· ++ bases.external) ++ last, text.length⟩ ∧
      bases.pass true text =
        ⟨pieces.flatMap (· ++ bases.external) ++ last.take (last.length - bases.overlap),
          text.length - min bases.overlap last.length⟩ := by
  have hcuts := cuts_gaps hp text
  generalize (gaps bases.internal text).1 = pieces at hcuts
  generalize (gaps bases.internal text).2 = last at hcuts
  have hinto := hcuts.cutInto hp
  refine ⟨pieces,last,hinto,?_,fun holdTail out => bases.passOnto_eq holdTail text out,?_,?_⟩
  · intro pieces' last' h
    exact hinto.unique hp h
  · simpa [heldBack] using bases.pass_of_cuts hp hcuts false
  · have hkept : last.length - min bases.overlap last.length = last.length - bases.overlap := by
      omega
    simpa [heldBack, hkept] using bases.pass_of_cuts hp hcuts true

/-- Behind a buffer of one byte, a base that overlaps itself, and one byte held back. -/
theorem pass_of_pieces_overlapping :
    let bases : Bases := ⟨[97, 97],[98]⟩
    bases.internal ≠ [] ∧ ∃ pieces last, CutInto bases.internal [97, 97, 97] pieces last ∧
      (∀ pieces' last', CutInto bases.internal [97, 97, 97] pieces' last' →
        pieces' = pieces ∧ last' = last) ∧
      bases.passOnto false [97, 97, 97] [120] = some ([120, 98, 97], 3) ∧
      bases.passOnto true [97, 97, 97] [120] = some ([120, 98], 2) ∧
      pieces.flatMap (· ++ [98]) ++ last = [98, 97] := by
  intro bases
  have hp : bases.internal ≠ [] := List.cons_ne_nil _ _
  have hwhole : bases.pass false [97, 97, 97] = ⟨[98, 97],3⟩ := by decide +kernel
  have hheld : bases.pass true [97, 97, 97] = ⟨[98],2⟩ := by decide +kernel
  obtain ⟨pieces,last,hinto,hunique,honto,hpieces,_⟩ := bases.pass_of_pieces hp [97, 97, 97]
  refine ⟨hp,pieces,last,hinto,hunique,?_,?_,?_⟩
  · rw [honto, hwhole]
    rfl
  · rw [honto, hheld]
    rfl
  · rw [hwhole] at hpieces
    exact (congrArg Pass.ready hpieces).symm

end Bases

end RebasingProxy
