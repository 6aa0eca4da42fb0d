/-! # Sets of content types

A set of content types, kept as the list of its members in strictly ascending order, so
equal sets are equal lists.
-/
namespace RebasingProxy

def insertName (name : String) : List String → List String
  | [] => [name]
  | other :: rest =>
    if name < other then name :: other :: rest
    else if name = other then other :: rest
    else other :: insertName name rest

theorem mem_insertName {name x : String} {names : List String} :
    x ∈ insertName name names ↔ x = name ∨ x ∈ names := by
  induction names with
  | nil => simp [insertName]
  | cons other rest ih =>
    rw [insertName]
    split
    · simp
    · split
      · rename_i h; simp [h]
      · simp only [List.mem_cons, ih]; grind

theorem pairwise_insertName {name : String} {names : List String}
    (h : names.Pairwise (· < ·)) : (insertName name names).Pairwise (· < ·) := by
  induction names with
  | nil => simp [insertName]
  | cons other rest ih =>
    obtain ⟨hlt, hrest⟩ := List.pairwise_cons.mp h
    rw [insertName]
    split
    · rename_i hname
      refine List.pairwise_cons.mpr ⟨fun x hx => ?_, h⟩
      rcases List.mem_cons.mp hx with rfl | hx
      · exact hname
      · exact String.lt_trans hname (hlt x hx)
    · split
      · exact h
      · rename_i hge hne
        refine List.pairwise_cons.mpr ⟨fun x hx => ?_, ih hrest⟩
        rcases mem_insertName.mp hx with rfl | hx
        · rcases Std.lt_trichotomy x other with hx | hx | hx
          · exact absurd hx hge
          · exact absurd hx hne
          · exact hx
        · exact hlt x hx

structure ContentTypes where
  names : List String
  sorted : names.Pairwise (· < ·)
deriving DecidableEq

namespace ContentTypes

def empty : ContentTypes := ⟨[], .nil⟩

def insert (types : ContentTypes) (name : String) : ContentTypes :=
  ⟨insertName name types.names, pairwise_insertName types.sorted⟩

def ofList (names : List String) : ContentTypes := names.foldl insert empty

/-- A content type is a member as it is written; parameters and case count. -/
def contains (types : ContentTypes) (name : String) : Bool := types.names.contains name

def isEmpty (types : ContentTypes) : Bool := types.names.isEmpty

end ContentTypes

end RebasingProxy
