import RebasingProxy.Headers.HopByHop

/-! # Fields by name

The fields are one list, but only the values of each name matter. Every operation is known by
what it does to the values of its own name; those of all other names stay as they are, in order.
-/
namespace RebasingProxy.Headers
variable {headers : Headers} {name other : String} {value : Bytes}

@[simp] theorem values_append_self :
    (headers.append name value).values name = headers.values name ++ [value] := by
  simp [append, values]

@[simp] theorem values_append_of_ne (h : other ≠ name) :
    (headers.append name value).values other = headers.values other := by
  simp [append, values, h.symm]

@[simp] theorem values_remove_self : (headers.remove name).values name = [] := by
  simp [remove, values]

@[simp] theorem values_remove_of_ne (h : other ≠ name) :
    (headers.remove name).values other = headers.values other := by
  have hboth : ∀ field : String × Bytes,
      (field.1 == other && field.1 != name) = (field.1 == other) := by
    intro field
    by_cases hfield : field.1 = other
    · simp [hfield, h]
    · simp [hfield]
  simp only [remove, values, List.filter_filter, hboth]

@[simp] theorem values_insert_self : (headers.insert name value).values name = [value] := by
  simp [insert]

@[simp] theorem values_insert_of_ne (h : other ≠ name) :
    (headers.insert name value).values other = headers.values other := by
  simp [insert, h]

theorem contains_iff : headers.contains name = true ↔ headers.values name ≠ [] := by
  simp [contains, values]

theorem values_foldl_remove (names : List String) :
    (names.foldl remove headers).values name =
      if name ∈ names then [] else headers.values name := by
  induction names generalizing headers with
  | nil => simp
  | cons first names ih =>
    rw [List.foldl_cons, ih]
    by_cases hname : name = first
    · simp [hname]
    · simp [hname]

end RebasingProxy.Headers
