/-! # Occurrences of a pattern

A text is cut around the leftmost occurrence of a pattern, then around the
leftmost occurrence in what follows it, and so on until none is left. The pieces
and the pattern give the text back, so no symbol is lost or invented.
-/
namespace RebasingProxy.Occurrence
variable {α : Type} [DecidableEq α]

/-- The leftmost occurrence in the text, as what stands before and after it.
`passed` holds what has been passed over so far, last symbol first. -/
def firstMatchFrom (pattern : List α) : List α → List α → Option (List α × List α)
  | passed, [] => if pattern.isEmpty then some (passed.reverse, []) else none
  | passed, a :: rest =>
    if pattern.isPrefixOf (a :: rest) then
      some (passed.reverse, (a :: rest).drop pattern.length)
    else firstMatchFrom pattern (a :: passed) rest

/-- What stands before and after the leftmost occurrence of the pattern. The empty
pattern occurs at the front of every text. -/
def firstMatch? (pattern text : List α) : Option (List α × List α) :=
  firstMatchFrom pattern [] text

theorem append_of_firstMatchFrom {pattern passed text before after : List α}
    (h : firstMatchFrom pattern passed text = some (before, after)) :
    passed.reverse ++ text = before ++ (pattern ++ after) := by
  induction text generalizing passed with
  | nil =>
    cases pattern with
    | nil =>
      simp only [firstMatchFrom, List.isEmpty_nil, ↓reduceIte, Option.some.injEq,
        Prod.mk.injEq] at h
      simp [← h.1, ← h.2]
    | cons b bs => simp [firstMatchFrom] at h
  | cons a rest ih =>
    rw [firstMatchFrom] at h
    split at h
    · rename_i hp
      obtain ⟨tail, ht⟩ := List.isPrefixOf_iff_prefix.mp hp
      simp only [← ht, List.drop_left', Option.some.injEq, Prod.mk.injEq] at h
      simp [← h.1, ← h.2, ht]
    · simpa using ih h

theorem append_of_firstMatch? {pattern text before after : List α}
    (h : firstMatch? pattern text = some (before, after)) :
    text = before ++ (pattern ++ after) := by
  simpa using append_of_firstMatchFrom h

/-- The stretches before each of the leftmost non-overlapping occurrences, and what
follows the last one. `found` holds the stretches met so far, last one first. -/
def gapsFrom (pattern : List α) (hp : pattern ≠ []) (found : List (List α)) (text : List α) :
    List (List α) × List α :=
  match _h : firstMatch? pattern text with
  | none => (found.reverse, text)
  | some (before, after) => gapsFrom pattern hp (before :: found) after
termination_by text.length
decreasing_by
  have hlen := congrArg List.length (append_of_firstMatch? _h)
  have := List.length_pos_iff.mpr hp
  simp only [List.length_append] at hlen
  omega

/-- The stretches before each of the leftmost non-overlapping occurrences, and what
follows the last one. The empty pattern cuts nothing. -/
def gaps (pattern text : List α) : List (List α) × List α :=
  if hp : pattern = [] then ([], text) else gapsFrom pattern hp [] text

end RebasingProxy.Occurrence
