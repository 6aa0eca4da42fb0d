import RebasingProxy.Proofs.Headers.Request

/-! # The chain of addresses

The values of a field that lists addresses are one list, whether they stand in one field or in
several. The proxy puts the client's address behind the first value alone, so what it writes is the
whole list with one address more only if there was one value at most, and a readable one.
-/
namespace RebasingProxy.Headers

def joined (values : List Bytes) : Bytes := (Bytes.ofText ", ").intercalate values

section Joining
variable (first second : Bytes) (values : List Bytes)

theorem joined_singleton : joined [first] = first := List.intercalate_singleton

theorem joined_cons_cons : joined (first :: second :: values) =
    first ++ Bytes.ofText ", " ++ joined (second :: values) := List.intercalate_cons_cons

/-- Every value in front of the last one stands there with a separator behind it. -/
theorem joined_concat (last : Bytes) : joined (values ++ [last]) =
    values.flatMap (fun value => value ++ Bytes.ofText ", ") ++ last := by
  induction values with
  | nil => exact joined_singleton last
  | cons first values ih =>
    obtain ⟨second,rest,hrest⟩ : ∃ second rest, values ++ [last] = second :: rest :=
      List.exists_cons_of_ne_nil (by simp)
    rw [List.cons_append, hrest, joined_cons_cons, ← hrest, ih, List.flatMap_cons,
      List.append_assoc (first ++ Bytes.ofText ", ")]

theorem separator_ne_nil : Bytes.ofText ", " ≠ [] := by decide

/-- A list with something in front of the last value is not that value alone. -/
theorem joined_cons_concat_ne (last : Bytes) : last ≠ joined (first :: values ++ [last]) := by
  intro h
  rw [joined_concat, List.self_eq_append_left, List.flatMap_cons] at h
  simp [separator_ne_nil] at h

/-- A list is told apart from one that has more between its first value and its last. -/
theorem joined_pair_ne (last : Bytes) :
    joined [first, last] ≠ joined (first :: second :: values ++ [last]) := by
  intro h
  have hpair : joined [first, last] =
      [first].flatMap (fun value => value ++ Bytes.ofText ", ") ++ last :=
    joined_concat [first] last
  rw [hpair, joined_concat, List.append_cancel_right_eq] at h
  simp [separator_ne_nil] at h

end Joining

/-- The value written for the client, if these are the values that are left. -/
theorem values_forRequest_chain (headers : Headers) (client : IpAddress) (host : Option String) :
    (headers.forRequest (some client) host).values "x-forwarded-for" =
      [Bytes.ofText (extendChain
        ((headers.withoutHopByHop.values "x-forwarded-for").head?.bind headerText?) client)] := by
  rw [values_forRequest_client, first?, values_kept_of_ne (by decide) (by decide)]

theorem ofText_extendChain (value : Bytes) (client : IpAddress) :
    Bytes.ofText (extendChain (headerText? value) client) =
      if (headerText? value).isSome then joined [value, Bytes.ofText client.text]
      else Bytes.ofText client.text := by
  cases htext : headerText? value with
  | none => rfl
  | some text =>
    rw [joined_cons_cons, joined_singleton, extendChain, Bytes.ofText_append, Bytes.ofText_append,
      ofText_of_headerText? htext]
    rfl

/-- The backend gets the list of all earlier addresses, followed by the client's, exactly if at most
one value was left of those the client sent, and that one is text. -/
theorem joined_forRequest_iff (headers : Headers) (client : IpAddress) (host : Option String) :
    let earlier := headers.withoutHopByHop.values "x-forwarded-for"
    joined ((headers.forRequest (some client) host).values "x-forwarded-for") =
        joined (earlier ++ [Bytes.ofText client.text]) ↔
      earlier = [] ∨ ∃ value, earlier = [value] ∧ (headerText? value).isSome = true := by
  intro earlier
  rw [values_forRequest_chain, joined_singleton]
  change Bytes.ofText (extendChain (earlier.head?.bind headerText?) client) = _ ↔ _
  cases earlier with
  | nil => simp [joined_singleton, extendChain]
  | cons value rest =>
    rw [List.head?_cons, Option.bind_some, ofText_extendChain]
    cases rest with
    | nil =>
      by_cases htext : (headerText? value).isSome = true
      · simp [htext]
      · rw [if_neg htext]
        constructor
        · intro hsame
          exact absurd hsame (joined_cons_concat_ne value [] _)
        · rintro (hnil | ⟨other,hother,hsome⟩)
          · cases hnil
          · cases hother
            exact absurd hsome htext
    | cons second rest =>
      constructor
      · intro hsame
        exfalso
        split at hsame
        · exact joined_pair_ne value second rest _ hsame
        · exact joined_cons_concat_ne value (second :: rest) _ hsame
      · rintro (hnil | ⟨other,hother,_⟩)
        · cases hnil
        · cases hother

/-- Of two values only the first is passed on. -/
theorem joined_forRequest_of_two :
    let client : IpAddress := .v4 #v[192, 168, 1, 7]
    let headers : Headers := ⟨[("x-forwarded-for", Bytes.ofText "10.0.0.1"),
      ("x-forwarded-for", Bytes.ofText "10.0.0.2")]⟩
    let sent := headers.forRequest (some client) none
    headers.withoutHopByHop.values "x-forwarded-for" =
        [Bytes.ofText "10.0.0.1", Bytes.ofText "10.0.0.2"] ∧
      joined (sent.values "x-forwarded-for") = Bytes.ofText "10.0.0.1, 192.168.1.7" ∧
      joined (sent.values "x-forwarded-for") ≠
        joined (headers.withoutHopByHop.values "x-forwarded-for" ++
          [Bytes.ofText client.text]) := by
  decide +kernel

end RebasingProxy.Headers
