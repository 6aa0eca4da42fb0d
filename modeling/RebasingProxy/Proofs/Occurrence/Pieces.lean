import RebasingProxy.Proofs.Occurrence

/-! # The one way to cut a text at a pattern

Said without a search, the pieces of a text are those between occurrences of the pattern, each of
them the first from where its piece begins, and the last piece has none. A text can be cut like this
in one way only, also where the pattern overlaps itself.
-/
namespace RebasingProxy.Occurrence
variable {α : Type}

/-- The pattern begins at this place of the text and at no earlier one. -/
def FirstAt (pattern text : List α) (place : Nat) : Prop :=
  pattern <+: text.drop place ∧ ∀ earlier < place, ¬ pattern <+: text.drop earlier

/-- The text is made of the pieces, with the pattern behind each of them, and of the last piece. -/
structure CutInto (pattern text : List α) (pieces : List (List α)) (last : List α) : Prop where
  text_eq : text = pieces.flatMap (· ++ pattern) ++ last
  first : ∀ piece ∈ pieces, FirstAt pattern (piece ++ pattern) piece.length
  free : ¬ pattern <:+: last

variable {pattern text last : List α} {pieces : List (List α)}

theorem firstAt_iff_passedOver {piece : List α} :
    FirstAt pattern (piece ++ pattern) piece.length ↔ PassedOver pattern piece pattern := by
  rw [passedOver_iff]
  constructor
  · rintro ⟨_,hearlier⟩ before after htext
    by_contra hshort
    apply hearlier before.length (Nat.lt_of_not_le hshort)
    rw [htext, List.drop_left]
    exact List.prefix_append _ _
  · intro h
    refine ⟨by simp,?_⟩
    rintro earlier hearlier ⟨after,hafter⟩
    have htext : piece ++ pattern = (piece ++ pattern).take earlier ++ (pattern ++ after) := by
      rw [hafter, List.take_append_drop]
    have hlen := h _ _ htext
    rw [List.length_take] at hlen
    omega

theorem Cuts.cutInto (hp : pattern ≠ []) (h : Cuts pattern text pieces last) :
    CutInto pattern text pieces last := by
  refine ⟨h.text_eq,?_,(passedOver_nil_iff hp).mp h.passedOver_last⟩
  induction h with
  | done => simp
  | found hpiece _ ih => exact List.forall_mem_cons.mpr ⟨firstAt_iff_passedOver.mpr hpiece,ih⟩

theorem CutInto.cuts (hp : pattern ≠ []) (h : CutInto pattern text pieces last) :
    Cuts pattern text pieces last := by
  obtain ⟨rfl,hfirst,hfree⟩ := h
  induction pieces with
  | nil => exact .done ((passedOver_nil_iff hp).mpr hfree)
  | cons piece pieces ih =>
    obtain ⟨hpiece,hpieces⟩ := List.forall_mem_cons.mp hfirst
    have hcuts := Cuts.found (firstAt_iff_passedOver.mp hpiece) (ih hpieces)
    simpa using hcuts

/-- The first occurrence is in one place only. -/
theorem PassedOver.append_inj {before after before' after' : List α}
    (h : PassedOver pattern before pattern) (h' : PassedOver pattern before' pattern)
    (heq : before ++ (pattern ++ after) = before' ++ (pattern ++ after')) :
    before = before' ∧ after = after' := by
  have hfirst := h.extend (Nat.le_succ _) (List.prefix_append pattern after)
  have hfirst' := h'.extend (Nat.le_succ _) (List.prefix_append pattern after')
  have hle := passedOver_iff.mp hfirst _ _ heq
  have hge := passedOver_iff.mp hfirst' _ _ heq.symm
  obtain ⟨hbefore,hrest⟩ := List.append_inj heq (Nat.le_antisymm hle hge)
  exact ⟨hbefore,List.append_cancel_left hrest⟩

theorem Cuts.unique {pieces' : List (List α)} {last' : List α} (hp : pattern ≠ [])
    (h : Cuts pattern text pieces last) (h' : Cuts pattern text pieces' last') :
    pieces' = pieces ∧ last' = last := by
  have hinside : ∀ before after : List α, pattern <:+: before ++ (pattern ++ after) :=
    fun before after => ⟨before,after,by simp⟩
  induction h generalizing pieces' last' with
  | done hlast =>
    cases h' with
    | done => exact ⟨rfl,rfl⟩
    | found => exact absurd (hinside _ _) ((passedOver_nil_iff hp).mp hlast)
  | @found before after last pieces hpiece _ ih =>
    generalize htext : before ++ (pattern ++ after) = text at h'
    cases h' with
    | done hlast =>
      rw [← htext] at hlast
      exact absurd (hinside _ _) ((passedOver_nil_iff hp).mp hlast)
    | found hpiece' hrest' =>
      obtain ⟨rfl,rfl⟩ := hpiece.append_inj hpiece' htext
      obtain ⟨rfl,rfl⟩ := ih hrest'
      exact ⟨rfl,rfl⟩

theorem CutInto.unique {pieces' : List (List α)} {last' : List α} (hp : pattern ≠ [])
    (h : CutInto pattern text pieces last) (h' : CutInto pattern text pieces' last') :
    pieces' = pieces ∧ last' = last :=
  (h.cuts hp).unique hp (h'.cuts hp)

section Search
variable [DecidableEq α]

theorem firstMatch?_eq_none (hp : pattern ≠ []) (h : PassedOver pattern text []) :
    firstMatch? pattern text = none := by
  cases hfound : firstMatch? pattern text with
  | none => rfl
  | some found =>
    obtain ⟨before,after⟩ := found
    have hinside : pattern <:+: text := ⟨before,after,by simp [append_of_firstMatch? hfound]⟩
    exact absurd hinside ((passedOver_nil_iff hp).mp h)

theorem firstMatch?_eq_some (hp : pattern ≠ []) {before : List α}
    (h : PassedOver pattern before pattern) (after : List α) :
    firstMatch? pattern (before ++ (pattern ++ after)) = some (before, after) := by
  cases hfound : firstMatch? pattern (before ++ (pattern ++ after)) with
  | none =>
    have hnot := (passedOver_nil_iff hp).mp (passedOver_of_firstMatch?_none hfound)
    exact absurd ⟨before,after,by simp⟩ hnot
  | some found =>
    obtain ⟨before',after'⟩ := found
    have htext := append_of_firstMatch? hfound
    obtain ⟨rfl,rfl⟩ := h.append_inj (passedOver_of_firstMatch? hfound) htext
    rfl

end Search

end RebasingProxy.Occurrence
