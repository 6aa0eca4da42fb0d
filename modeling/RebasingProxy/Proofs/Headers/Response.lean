import RebasingProxy.Headers.Response
import RebasingProxy.Proofs.Headers.HopByHop

/-! # What a forwarded response keeps

The link and the field that exposes it are appended behind the backend's own values. That is done
before the fields of the connection are taken away, so a `connection` field may name them, and
then they go as well.
-/
namespace RebasingProxy.Headers
variable {headers : Headers} {status : Status} {link : Option Bytes} {name : String}

def advertised (link : Option Bytes) (name : String) : List Bytes :=
  if name = "link" then link.toList
  else if name = "access-control-expose-headers" then [Bytes.ofText "Link"]
  else []

theorem decorated_of_gt (h : 299 < status.code) : (headers.decorated status link).1 = headers := by
  rw [decorated, if_pos h]

theorem values_linked (headers : Headers) (link : Option Bytes) (name : String) :
    (link.elim headers (headers.append "link")).values name =
      headers.values name ++ if name = "link" then link.toList else [] := by
  cases link with
  | none => simp
  | some value =>
    by_cases hname : name = "link"
    · simp [hname]
    · simp [hname]

theorem values_decorated (h : status.code ≤ 299) (name : String) :
    (headers.decorated status link).1.values name =
      if name = "content-length" then [] else headers.values name ++ advertised link name := by
  rw [decorated, if_neg (Nat.not_lt.mpr h)]
  by_cases hexpose : name = "access-control-expose-headers"
  · subst hexpose
    rw [values_append_self, values_remove_of_ne (by decide), values_linked]
    simp [advertised]
  · rw [values_append_of_ne hexpose]
    by_cases hlength : name = "content-length"
    · rw [if_pos hlength, hlength, values_remove_self]
    · rw [values_remove_of_ne hlength, values_linked]
      simp [advertised, hexpose, hlength]

theorem values_decorated_of_ne (hlength : name ≠ "content-length") (hlink : name ≠ "link")
    (hexpose : name ≠ "access-control-expose-headers") :
    (headers.decorated status link).1.values name = headers.values name := by
  by_cases hstatus : 299 < status.code
  · rw [decorated_of_gt hstatus]
  · rw [values_decorated (Nat.le_of_not_lt hstatus)]
    simp [advertised, hlength, hlink, hexpose]

def passedOn (headers : Headers) (status : Status) (link : Option Bytes) : Headers :=
  (headers.decorated status link).1.withoutHopByHop

theorem values_passedOn (headers : Headers) (status : Status) (link : Option Bytes)
    (name : String) :
    (headers.passedOn status link).values name =
      if headers.EndsHere name then [] else (headers.decorated status link).1.values name := by
  have hconnection : (headers.decorated status link).1.values "connection" =
      headers.values "connection" := values_decorated_of_ne (by decide) (by decide) (by decide)
  simp only [passedOn, values_withoutHopByHop, endsHere_congr hconnection]

/-- What the proxy appends reaches the client exactly where the connection does not take it away. -/
theorem values_passedOn_eq_append {added : Bytes} (hstatus : status.code ≤ 299)
    (hlength : name ≠ "content-length") (hadded : advertised link name = [added]) :
    (headers.passedOn status link).values name =
      headers.withoutHopByHop.values name ++ [added] ↔ ¬ headers.EndsHere name := by
  rw [values_passedOn, values_withoutHopByHop]
  by_cases hends : headers.EndsHere name
  · simp [hends]
  · rw [if_neg hends, if_neg hends, values_decorated hstatus, if_neg hlength, hadded]
    simp [hends]

/-- A length that is still declared is the backend's, and the response is none to be decorated. -/
theorem length_of_passedOn (h : (headers.passedOn status link).values "content-length" ≠ []) :
    299 < status.code ∧ (headers.passedOn status link).values "content-length" =
      headers.values "content-length" := by
  rw [values_passedOn] at h ⊢
  by_cases hends : headers.EndsHere "content-length"
  · rw [if_pos hends] at h
    exact absurd rfl h
  · rw [if_neg hends] at h ⊢
    by_cases hstatus : 299 < status.code
    · rw [decorated_of_gt hstatus]
      exact ⟨hstatus,rfl⟩
    · rw [values_decorated (Nat.le_of_not_lt hstatus), if_pos rfl] at h
      exact absurd rfl h

theorem contentType_passedOn (headers : Headers) (status : Status) (link : Option Bytes) :
    (headers.passedOn status link).contentType = headers.withoutHopByHop.contentType := by
  have htype : (headers.decorated status link).1.values "content-type" =
      headers.values "content-type" := values_decorated_of_ne (by decide) (by decide) (by decide)
  simp only [contentType, first?, values_passedOn, values_withoutHopByHop, htype]

end RebasingProxy.Headers
