import RebasingProxy.Headers.Request
import RebasingProxy.Proofs.FieldText
import RebasingProxy.Proofs.Headers.HopByHop

/-! # What a forwarded request keeps

The proxy first takes away what must not go on and then writes fields of its own, so a
`connection` field cannot name those away. Outside the names the proxy writes, the values are the
client's.
-/
namespace RebasingProxy.Headers
variable {headers : Headers} {name : String}

theorem wantsTrailers_iff : headers.wantsTrailers = true ↔ headers.Lists "te" "trailers" := by
  rw [wantsTrailers, List.contains_iff_mem, mem_tokens]

/-- What is left of the client's fields before the proxy writes the address and the host. -/
def kept (headers : Headers) : Headers :=
  (if headers.wantsTrailers then headers.withoutHopByHop.insert "te" (Bytes.ofText "trailers")
    else headers.withoutHopByHop).remove "accept-encoding"

theorem forRequest_eq (headers : Headers) (client : Option IpAddress) (host : Option String) :
    headers.forRequest client host =
      host.elim (client.elim headers.kept headers.kept.forwardedFor)
        (client.elim headers.kept headers.kept.forwardedFor).addressedTo := rfl

theorem values_kept_encoding : headers.kept.values "accept-encoding" = [] := by
  rw [kept, values_remove_self]

theorem values_kept_te :
    headers.kept.values "te" =
      if headers.Lists "te" "trailers" then [Bytes.ofText "trailers"] else [] := by
  rw [kept, values_remove_of_ne (by decide)]
  by_cases hwants : headers.wantsTrailers = true
  · rw [if_pos hwants, if_pos (wantsTrailers_iff.mp hwants), values_insert_self]
  · rw [if_neg hwants, if_neg (fun h => hwants (wantsTrailers_iff.mpr h)), values_withoutHopByHop,
      if_pos (show headers.EndsHere "te" from Or.inl (by decide))]

theorem values_kept_of_ne (hte : name ≠ "te") (hencoding : name ≠ "accept-encoding") :
    headers.kept.values name = headers.withoutHopByHop.values name := by
  rw [kept, values_remove_of_ne hencoding]
  split
  · exact values_insert_of_ne hte
  · rfl

theorem values_kept_of_hopByHop (h : name ∈ hopByHopNames) (hte : name ≠ "te") :
    headers.kept.values name = [] := by
  have hother : ∀ name ∈ hopByHopNames, name ≠ "accept-encoding" := by decide
  have hends : headers.EndsHere name := Or.inl h
  rw [values_kept_of_ne hte (hother name h), values_withoutHopByHop, if_pos hends]

theorem values_forwardedFor_self (headers : Headers) (client : IpAddress) :
    (headers.forwardedFor client).values "x-forwarded-for" =
      [Bytes.ofText
        (extendChain ((headers.first? "x-forwarded-for").bind headerText?) client)] := by
  have hclient := client.isFieldText_text
  have hlegal : IsFieldText
      (extendChain ((headers.first? "x-forwarded-for").bind headerText?) client) := by
    cases hprior : (headers.first? "x-forwarded-for").bind headerText? with
    | none => exact hclient
    | some chain =>
      obtain ⟨value,_,hvalue⟩ := Option.bind_eq_some_iff.mp hprior
      have hcomma : IsFieldText ", " := by simp [IsFieldText]
      rw [extendChain]
      exact ((isFieldText_of_headerText? hvalue).append hcomma).append hclient
  rw [forwardedFor, if_pos (isLegalHeaderValue_ofText hlegal.isLegalText),
    values_insert_self]

theorem values_forwardedFor_of_ne (h : name ≠ "x-forwarded-for") (client : IpAddress) :
    (headers.forwardedFor client).values name = headers.values name := by
  simp only [forwardedFor]
  split
  · exact values_insert_of_ne h
  · rfl

theorem values_addressedTo_self {host : String}
    (h : isLegalHeaderValue (Bytes.ofText host) = true) :
    (headers.addressedTo host).values "host" = [Bytes.ofText host] := by
  rw [addressedTo, if_pos h, values_insert_self]

theorem values_addressedTo_of_ne {host : String}
    (h : name = "host" → isLegalHeaderValue (Bytes.ofText host) = false) :
    (headers.addressedTo host).values name = headers.values name := by
  simp only [addressedTo]
  split
  · rename_i hlegal
    exact values_insert_of_ne fun hname => by simp [h hname] at hlegal
  · rfl

section Forwarding
variable {client : Option IpAddress} {host : Option String}

theorem values_forRequest_of_host (h : name = "host" → ∀ text ∈ host,
    isLegalHeaderValue (Bytes.ofText text) = false) :
    (headers.forRequest client host).values name =
      (client.elim headers.kept headers.kept.forwardedFor).values name := by
  rw [forRequest_eq]
  cases host with
  | none => rfl
  | some text => exact values_addressedTo_of_ne fun hname => h hname text rfl

/-- A name the proxy does not write has what is left of the client's values. -/
theorem values_forRequest (hclient : name = "x-forwarded-for" → client = none)
    (hhost : name = "host" → ∀ text ∈ host, isLegalHeaderValue (Bytes.ofText text) = false) :
    (headers.forRequest client host).values name = headers.kept.values name := by
  rw [values_forRequest_of_host hhost]
  cases client with
  | none => rfl
  | some address =>
    rw [Option.elim_some, values_forwardedFor_of_ne (fun hname => nomatch hclient hname)]

theorem values_forRequest_host {text : String}
    (h : isLegalHeaderValue (Bytes.ofText text) = true) :
    (headers.forRequest client (some text)).values "host" = [Bytes.ofText text] := by
  rw [forRequest_eq, Option.elim_some, values_addressedTo_self h]

theorem values_forRequest_client {address : IpAddress} :
    (headers.forRequest (some address) host).values "x-forwarded-for" =
      [Bytes.ofText (extendChain ((headers.kept.first? "x-forwarded-for").bind headerText?)
        address)] := by
  rw [values_forRequest_of_host (fun hname => absurd hname (by decide)), Option.elim_some,
    values_forwardedFor_self]

end Forwarding

end RebasingProxy.Headers
