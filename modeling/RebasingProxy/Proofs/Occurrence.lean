import Mathlib.Data.List.Infix
import RebasingProxy.Occurrence

/-! # Leftmost occurrences and their replacement

A stretch is passed over in front of a text when no occurrence of the pattern begins
inside it. Cutting a text at its leftmost non-overlapping occurrences passes over every
piece, and this describes the pieces without a search. Replacement is given by one reading
of the text from the left. Behind the last occurrence it may be interrupted anywhere
as long as the rest could hold all but one symbol of the pattern.
-/
namespace RebasingProxy.Occurrence
variable {α : Type}

/-- No occurrence of the pattern in `stretch ++ rest` begins inside the stretch. -/
def PassedOver (pattern : List α) : List α → List α → Prop
  | [], _ => True
  | a :: stretch, rest => ¬ pattern <+: a :: (stretch ++ rest) ∧ PassedOver pattern stretch rest

theorem passedOver_append {pattern first second rest : List α} :
    PassedOver pattern (first ++ second) rest ↔
      PassedOver pattern first (second ++ rest) ∧ PassedOver pattern second rest := by
  induction first with
  | nil => simp [PassedOver]
  | cons a first ih => simp [PassedOver, ih, and_assoc]

theorem PassedOver.of_prefix {pattern stretch rest front : List α}
    (h : PassedOver pattern stretch rest) (hf : front <+: rest) :
    PassedOver pattern stretch front := by
  induction stretch with
  | nil => exact trivial
  | cons a stretch ih =>
    obtain ⟨hhere,hthere⟩ := h
    refine ⟨?_,ih hthere⟩
    intro hp
    have hlonger : a :: (stretch ++ front) <+: a :: (stretch ++ rest) := by simpa using hf
    exact hhere (hp.trans hlonger)

/-- An occurrence that begins inside the stretch ends inside a text as long as the pattern,
so nothing behind that text matters. -/
theorem PassedOver.extend {pattern stretch rest more : List α}
    (h : PassedOver pattern stretch rest) (hlen : pattern.length ≤ rest.length + 1)
    (hm : rest <+: more) : PassedOver pattern stretch more := by
  induction stretch with
  | nil => exact trivial
  | cons a stretch ih =>
    obtain ⟨hhere,hthere⟩ := h
    refine ⟨?_,ih hthere⟩
    intro hp
    have hlonger : a :: (stretch ++ rest) <+: a :: (stretch ++ more) := by simpa using hm
    apply hhere
    apply List.prefix_of_prefix_length_le hp hlonger
    simp only [List.length_cons, List.length_append]
    omega

theorem passedOver_singleton {a : α} {stretch rest : List α} :
    PassedOver [a] stretch rest ↔ a ∉ stretch := by
  induction stretch with
  | nil => simp [PassedOver]
  | cons b stretch ih => simp [PassedOver, ih]

theorem passedOver_iff {pattern stretch rest : List α} :
    PassedOver pattern stretch rest ↔
      ∀ before after, stretch ++ rest = before ++ (pattern ++ after) →
        stretch.length ≤ before.length := by
  induction stretch with
  | nil => simp [PassedOver]
  | cons a stretch ih =>
    constructor
    · rintro ⟨hhere,hthere⟩ before after htext
      cases before with
      | nil => exact absurd ⟨after,htext.symm⟩ hhere
      | cons b before =>
        have hrest := (List.cons.inj htext).2
        exact Nat.succ_le_succ (ih.mp hthere before after hrest)
    · intro h
      refine ⟨?_,ih.mpr ?_⟩
      · rintro ⟨after,htext⟩
        exact absurd (h [] after htext.symm) (Nat.not_succ_le_zero _)
      · intro before after htext
        have hlen := h (a :: before) after (congrArg (a :: ·) htext)
        exact Nat.le_of_succ_le_succ hlen

theorem passedOver_nil_iff {pattern text : List α} (hp : pattern ≠ []) :
    PassedOver pattern text [] ↔ ¬ pattern <:+: text := by
  have hpos := List.length_pos_iff.mpr hp
  rw [passedOver_iff]
  constructor
  · rintro h ⟨before,after,htext⟩
    have hlen := h before after (by simpa using htext.symm)
    have htextLen := congrArg List.length htext
    simp only [List.length_append] at htextLen
    omega
  · intro h before after htext
    exact absurd ⟨before,after,by simpa using htext.symm⟩ h

/-- A beginning without a certain symbol ends in front of it. -/
theorem prefix_of_prefix_append_cons {a : α} {pattern front rest : List α} (ha : a ∉ pattern)
    (h : pattern <+: front ++ a :: rest) : pattern <+: front := by
  rcases Nat.lt_or_ge front.length pattern.length with hlong | hshort
  · have hbroken : front ++ [a] <+: pattern := by
      refine List.prefix_of_prefix_length_le ⟨rest,by simp⟩ h ?_
      rw [List.length_append, List.length_singleton]
      exact hlong
    exact absurd (hbroken.subset (by simp)) ha
  · exact List.prefix_of_prefix_length_le h (List.prefix_append _ _) hshort

theorem PassedOver.append_cons {a : α} {pattern stretch : List α}
    (h : PassedOver pattern stretch []) (ha : a ∉ pattern) (rest : List α) :
    PassedOver pattern stretch (a :: rest) := by
  induction stretch with
  | nil => exact trivial
  | cons b stretch ih =>
    obtain ⟨hhere,hthere⟩ := h
    refine ⟨?_,ih hthere⟩
    intro hp
    rw [List.append_nil] at hhere
    exact hhere (prefix_of_prefix_append_cons ha hp)

/-- A pattern without a certain symbol lies on one side of it. -/
theorem infix_of_infix_append_cons {a : α} {pattern front rest : List α} (ha : a ∉ pattern)
    (h : pattern <:+: front ++ a :: rest) : pattern <:+: front ∨ pattern <:+: rest := by
  have hstart : ∀ part, a ∉ part → part <+: a :: rest → part = [] := by
    intro part hpart hprefix
    have hempty : part <+: [] := prefix_of_prefix_append_cons hpart hprefix
    exact List.prefix_nil.mp hempty
  rcases List.infix_append_iff.mp h with h | h | ⟨part,tail,rfl,hpart,htail⟩
  · exact Or.inl h
  · rcases List.infix_cons_iff.mp h with h | h
    · rw [hstart pattern ha h]
      exact Or.inl (List.nil_infix)
    · exact Or.inr h
  · rw [List.mem_append, not_or] at ha
    rw [hstart tail ha.2 htail, List.append_nil]
    exact Or.inl hpart.isInfix

def Agree (first second : List α) : Prop := first <+: second ∨ second <+: first

theorem Agree.symm {first second : List α} (h : Agree first second) : Agree second first :=
  Or.symm h

theorem Agree.append_left {first second : List α} (h : Agree first second) (front : List α) :
    Agree (front ++ first) (front ++ second) :=
  h.imp (List.prefix_append_right_inj front).mpr (List.prefix_append_right_inj front).mpr

theorem Agree.of_prefix {first second front : List α} (h : Agree first second)
    (hf : front <+: first) : Agree front second := by
  rcases h with h | h
  · exact Or.inl (hf.trans h)
  · exact List.prefix_or_prefix_of_prefix hf h

/-- The pieces of a text around its leftmost non-overlapping occurrences: each piece
reaches up to the first occurrence in what is left, and the last one holds none. -/
inductive Cuts (pattern : List α) : List α → List (List α) → List α → Prop
  | done {last : List α} (h : PassedOver pattern last []) : Cuts pattern last [] last
  | found {before after last : List α} {pieces : List (List α)}
      (h : PassedOver pattern before pattern) (rest : Cuts pattern after pieces last) :
      Cuts pattern (before ++ (pattern ++ after)) (before :: pieces) last

theorem Cuts.passedOver_last {pattern text last : List α} {pieces : List (List α)}
    (h : Cuts pattern text pieces last) : PassedOver pattern last [] := by
  induction h with
  | done h => exact h
  | found _ _ ih => exact ih

theorem Cuts.ne_nil_of_infix {pattern text last : List α} {pieces : List (List α)}
    (hp : pattern ≠ []) (h : Cuts pattern text pieces last) (hinside : pattern <:+: text) :
    pieces ≠ [] := by
  cases h with
  | done h => exact absurd hinside ((passedOver_nil_iff hp).mp h)
  | found => exact List.cons_ne_nil _ _

theorem Cuts.text_eq {pattern text last : List α} {pieces : List (List α)}
    (h : Cuts pattern text pieces last) : text = pieces.flatMap (· ++ pattern) ++ last := by
  induction h with
  | done => simp
  | found _ _ ih => simp [← ih]

theorem Cuts.notMem {a : α} {text last : List α} {pieces : List (List α)}
    (h : Cuts [a] text pieces last) : (∀ piece ∈ pieces, a ∉ piece) ∧ a ∉ last := by
  induction h with
  | done h => exact ⟨by simp,passedOver_singleton.mp h⟩
  | found h _ ih =>
    refine ⟨?_,ih.2⟩
    intro piece hpiece
    rcases List.mem_cons.mp hpiece with rfl | hpiece
    · exact passedOver_singleton.mp h
    · exact ih.1 piece hpiece

section Search
variable [DecidableEq α]

theorem firstMatchFrom_spec (pattern passed text : List α) :
    match firstMatchFrom pattern passed text with
    | some (before, after) => ∃ stretch, before = passed.reverse ++ stretch ∧
        PassedOver pattern stretch (pattern ++ after)
    | none => PassedOver pattern text [] := by
  induction text generalizing passed with
  | nil => cases pattern <;> simp [firstMatchFrom, PassedOver]
  | cons a rest ih =>
    rw [firstMatchFrom]
    by_cases hp : pattern.isPrefixOf (a :: rest)
    · simp only [if_pos hp]
      exact ⟨[],by simp,trivial⟩
    · simp only [if_neg hp]
      have hnot : ¬ pattern <+: a :: rest := by simpa using hp
      specialize ih (a :: passed)
      cases hm : firstMatchFrom pattern (a :: passed) rest with
      | none =>
        rw [hm] at ih
        exact ⟨by simpa using hnot,ih⟩
      | some found =>
        obtain ⟨before,after⟩ := found
        rw [hm] at ih
        obtain ⟨stretch,rfl,hs⟩ := ih
        have htext := append_of_firstMatchFrom hm
        have hrest : rest = stretch ++ (pattern ++ after) := by simpa using htext
        refine ⟨a :: stretch,by simp,?_,hs⟩
        rwa [← hrest]

theorem firstMatch?_append (pattern rest : List α) :
    firstMatch? pattern (pattern ++ rest) = some ([], rest) := by
  cases htext : pattern ++ rest with
  | nil =>
    obtain ⟨rfl,rfl⟩ := List.append_eq_nil_iff.mp htext
    rfl
  | cons a text =>
    have hprefix : pattern.isPrefixOf (a :: text) = true := by
      rw [← htext]
      exact List.isPrefixOf_iff_prefix.mpr (List.prefix_append _ _)
    rw [firstMatch?, firstMatchFrom, if_pos hprefix, ← htext, List.drop_left]
    rfl

theorem passedOver_of_firstMatch? {pattern text before after : List α}
    (h : firstMatch? pattern text = some (before, after)) :
    PassedOver pattern before pattern := by
  have hs := firstMatchFrom_spec pattern [] text
  rw [show firstMatchFrom pattern [] text = some (before, after) from h] at hs
  obtain ⟨stretch,rfl,hp⟩ := hs
  exact hp.of_prefix (List.prefix_append _ _)

theorem passedOver_of_firstMatch?_none {pattern text : List α}
    (h : firstMatch? pattern text = none) : PassedOver pattern text [] := by
  have hs := firstMatchFrom_spec pattern [] text
  rwa [show firstMatchFrom pattern [] text = none from h] at hs

theorem cuts_gapsFrom {pattern : List α} (hp : pattern ≠ []) (found : List (List α))
    (text : List α) : ∃ pieces, (gapsFrom pattern hp found text).1 = found.reverse ++ pieces ∧
      Cuts pattern text pieces (gapsFrom pattern hp found text).2 := by
  fun_induction gapsFrom pattern hp found text with
  | case1 found text h => exact ⟨[],by simp,.done (passedOver_of_firstMatch?_none h)⟩
  | case2 found text before after h ih =>
    obtain ⟨pieces,hpieces,hcuts⟩ := ih
    refine ⟨before :: pieces,by simp [hpieces],?_⟩
    rw [append_of_firstMatch? h]
    exact .found (passedOver_of_firstMatch? h) hcuts

theorem cuts_gaps {pattern : List α} (hp : pattern ≠ []) (text : List α) :
    Cuts pattern text (gaps pattern text).1 (gaps pattern text).2 := by
  obtain ⟨pieces,hpieces,hcuts⟩ := cuts_gapsFrom hp [] text
  simp only [gaps, dif_neg hp]
  rw [hpieces]
  simpa using hcuts

theorem exists_cuts {pattern : List α} (hp : pattern ≠ []) (text : List α) :
    ∃ pieces last, Cuts pattern text pieces last := ⟨_,_,cuts_gaps hp text⟩

/-- One reading of the text from the left: where the pattern begins, its replacement is
written and reading goes on behind it. The empty pattern is never replaced. -/
def replaced (pattern replacement text : List α) : List α :=
  match text with
  | [] => []
  | a :: rest =>
    if pattern ≠ [] ∧ pattern.isPrefixOf (a :: rest) then
      replacement ++ replaced pattern replacement ((a :: rest).drop pattern.length)
    else a :: replaced pattern replacement rest
termination_by text.length
decreasing_by
  · rename_i h
    have := List.length_pos_iff.mpr h.1
    simp only [List.length_drop, List.length_cons]
    omega
  · simp

variable (replacement : List α)

@[simp] theorem replaced_nil (pattern : List α) : replaced pattern replacement [] = [] := by
  rw [replaced]

@[simp] theorem replaced_empty (text : List α) : replaced [] replacement text = text := by
  induction text with
  | nil => simp
  | cons a rest ih => rw [replaced, if_neg (by simp), ih]

theorem replaced_ne_nil {pattern text : List α} (hr : replacement ≠ []) (ht : text ≠ []) :
    replaced pattern replacement text ≠ [] := by
  cases text with
  | nil => exact absurd rfl ht
  | cons a rest =>
    rw [replaced]
    split
    · exact List.append_ne_nil_of_left_ne_nil hr _
    · exact List.cons_ne_nil a _

theorem replaced_pattern_append {pattern : List α} (hp : pattern ≠ []) (text : List α) :
    replaced pattern replacement (pattern ++ text) =
      replacement ++ replaced pattern replacement text := by
  cases pattern with
  | nil => exact absurd rfl hp
  | cons a pattern =>
    rw [List.cons_append, replaced, if_pos (by simp)]
    simp

theorem replaced_append_of_passedOver {pattern stretch rest : List α}
    (h : PassedOver pattern stretch rest) :
    replaced pattern replacement (stretch ++ rest) =
      stretch ++ replaced pattern replacement rest := by
  induction stretch with
  | nil => rfl
  | cons a stretch ih =>
    have hnot : ¬ pattern <+: a :: (stretch ++ rest) := h.1
    rw [List.cons_append, replaced, if_neg (by simp [hnot]), ih h.2, List.cons_append]

theorem replaced_of_passedOver {pattern text : List α} (h : PassedOver pattern text []) :
    replaced pattern replacement text = text := by
  simpa using replaced_append_of_passedOver replacement h

theorem replaced_of_not_infix {pattern text : List α} (h : ¬ pattern <:+: text) :
    replaced pattern replacement text = text := by
  by_cases hp : pattern = []
  · rw [hp, replaced_empty]
  · exact replaced_of_passedOver replacement ((passedOver_nil_iff hp).mpr h)

/-- The first occurrence is replaced, and reading goes on behind it. -/
theorem replaced_append_pattern {pattern before : List α} (hp : pattern ≠ [])
    (h : PassedOver pattern before pattern) (after : List α) :
    replaced pattern replacement (before ++ (pattern ++ after)) =
      before ++ (replacement ++ replaced pattern replacement after) := by
  have hbefore := h.extend (Nat.le_succ _) (List.prefix_append pattern after)
  rw [replaced_append_of_passedOver replacement hbefore, replaced_pattern_append replacement hp]

/-- Where the pattern occurs, its first occurrence gives way to the replacement. -/
theorem replaced_of_infix {pattern text : List α} (hp : pattern ≠ []) (h : pattern <:+: text) :
    ∃ before after, text = before ++ (pattern ++ after) ∧
      replaced pattern replacement text =
        before ++ (replacement ++ replaced pattern replacement after) := by
  obtain ⟨pieces,last,hcuts⟩ := exists_cuts hp text
  cases hcuts with
  | done hnone => exact absurd h ((passedOver_nil_iff hp).mp hnone)
  | found hfirst => exact ⟨_,_,rfl,replaced_append_pattern replacement hp hfirst _⟩

/-- A symbol that the pattern does not have parts the text into two that are read on their own. -/
theorem replaced_append_cons {a : α} {pattern : List α} (ha : a ∉ pattern) (front rest : List α) :
    replaced pattern replacement (front ++ a :: rest) =
      replaced pattern replacement front ++ a :: replaced pattern replacement rest := by
  by_cases hp : pattern = []
  · rw [hp, replaced_empty, replaced_empty, replaced_empty]
  · obtain ⟨pieces,last,hcuts⟩ := exists_cuts hp front
    induction hcuts with
    | done hnone =>
      have hhere : ¬ pattern <+: a :: rest := by
        intro hprefix
        have hempty : pattern <+: [] := prefix_of_prefix_append_cons ha hprefix
        exact hp (List.prefix_nil.mp hempty)
      rw [replaced_append_of_passedOver replacement (hnone.append_cons ha rest),
        replaced_of_passedOver replacement hnone, replaced, if_neg (by simp [hhere])]
    | found hfirst _ ih =>
      rw [List.append_assoc, List.append_assoc, replaced_append_pattern replacement hp hfirst, ih,
        replaced_append_pattern replacement hp hfirst]
      simp only [List.append_assoc]

theorem replaced_self (pattern text : List α) : replaced pattern pattern text = text := by
  fun_induction replaced pattern pattern text with
  | case1 => rfl
  | case2 a rest h ih =>
    obtain ⟨tail,htail⟩ := List.isPrefixOf_iff_prefix.mp h.2
    rw [ih, ← htail, List.drop_left]
  | case3 a rest h ih => rw [ih]

theorem Cuts.replaced_eq {pattern text last : List α} {pieces : List (List α)}
    (hp : pattern ≠ []) (h : Cuts pattern text pieces last) :
    replaced pattern replacement text = pieces.flatMap (· ++ replacement) ++ last := by
  induction h with
  | done h => simp [replaced_of_passedOver replacement h]
  | found h _ ih =>
    rw [replaced_append_pattern replacement hp h, ih]
    simp

/-- Every replacement changes the length by the same amount. -/
theorem Cuts.length_replaced {pattern text last : List α} {pieces : List (List α)}
    (hp : pattern ≠ []) (h : Cuts pattern text pieces last) :
    (replaced pattern replacement text).length + pieces.length * pattern.length =
      text.length + pieces.length * replacement.length := by
  induction h with
  | done h => simp [replaced_of_passedOver replacement h]
  | found h _ ih =>
    rw [replaced_append_pattern replacement hp h]
    simp only [List.length_append, List.length_cons, Nat.succ_mul]
    omega

/-- A text may be interrupted behind its last occurrence, where the piece held back
could hold all but one symbol of the pattern or is everything behind that
occurrence. Whatever agrees with the piece held back is replaced as a text of its own. -/
theorem Cuts.replaced_append {pattern text last : List α} {pieces : List (List α)}
    (hp : pattern ≠ []) (h : Cuts pattern text pieces last) {kept held rest : List α}
    (hlast : last = kept ++ held) (hheld : kept = [] ∨ pattern.length ≤ held.length + 1)
    (hrest : Agree rest held) :
    replaced pattern replacement (pieces.flatMap (· ++ pattern) ++ (kept ++ rest)) =
      pieces.flatMap (· ++ replacement) ++ (kept ++ replaced pattern replacement rest) := by
  induction h with
  | done h =>
    -- An occurrence inside `kept` would end inside `held`, so what comes instead is irrelevant.
    subst hlast
    have hkept : PassedOver pattern kept rest := by
      rcases hheld with rfl | hlen
      · exact trivial
      · have hh : PassedOver pattern kept held := by simpa using (passedOver_append.mp h).1
        rcases hrest with hrest | hrest
        · exact hh.of_prefix hrest
        · exact hh.extend hlen hrest
    simpa using replaced_append_of_passedOver replacement hkept
  | found h _ ih =>
    have hfound := replaced_append_pattern replacement hp h
    simp only [List.flatMap_cons, List.append_assoc] at hfound ⊢
    rw [hfound, ih hlast]

end Search

end RebasingProxy.Occurrence
