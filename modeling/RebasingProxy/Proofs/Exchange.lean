import Mathlib.Logic.Basic
import RebasingProxy.Exchange
import RebasingProxy.Proofs.Backend
import RebasingProxy.Proofs.Headers.Request
import RebasingProxy.Proofs.Result

/-! # The request that is sent

A run sends one request at most: the client's, if its path is served and the text asked of the
backend is a URI. Its fields are the client's, less those of the client's connection, with those the
proxy writes in the place of the client's.

What sending comes to is settled by the scheme, the backend and the time there is: the connection
fails, the request is served in time, or the time runs out. The backend has the request as soon as
it has taken the connection.
-/
namespace RebasingProxy

theorem Proxy.of_ofConfig {config : Config} {proxy : Proxy} (h : ofConfig config = .ok proxy) :
    proxy.config = config ∧ proxy.bases = config.bases ∧ config.link = .ok proxy.link := by
  obtain ⟨link,hlink,hpure⟩ := bind_eq_ok.mp h
  cases hpure
  exact ⟨rfl,rfl,hlink⟩

namespace Exchange

/-- The request that a run hands over for sending, if there is one. -/
def handed? (config : Config) (request : Request) : Option Request :=
  if Path.isBoundBy request.uri.path config.bindPath then
    (Uri.parse (target config request.uri)).toOption.map (prepared config request)
  else none

section Running
variable {proxy : Proxy} {request : Request}

theorem run_of_parse (hbound : Path.isBoundBy request.uri.path proxy.config.bindPath = true)
    {uri : Uri} (hparse : Uri.parse (target proxy.config request.uri) = .ok uri)
    (backend : Backend) :
    run proxy backend request =
      { roundTrip proxy backend (prepared proxy.config request uri) with
        events := .routed request.uri.text (target proxy.config request.uri) ::
          (roundTrip proxy backend (prepared proxy.config request uri)).events } := by
  simp only [run, if_pos hbound, hparse]

theorem run_of_unreadable (hbound : Path.isBoundBy request.uri.path proxy.config.bindPath = true)
    {error : UriError} (hparse : Uri.parse (target proxy.config request.uri) = .error error)
    (backend : Backend) :
    run proxy backend request =
      { outcome := .failed (.invalidTarget (target proxy.config request.uri) error)
        events := [.routed request.uri.text (target proxy.config request.uri)] } := by
  simp only [run, if_pos hbound, hparse]

theorem run_of_notBound (hbound : ¬ Path.isBoundBy request.uri.path proxy.config.bindPath = true)
    (backend : Backend) : run proxy backend request = turnAway proxy.config request.uri := by
  simp only [run, if_neg hbound]

theorem run_of_handed? {sent : Request} (h : handed? proxy.config request = some sent)
    (backend : Backend) :
    run proxy backend request =
      { roundTrip proxy backend sent with
        events := .routed request.uri.text (target proxy.config request.uri) ::
          (roundTrip proxy backend sent).events } := by
  unfold handed? at h
  split at h
  · rename_i hbound
    obtain ⟨uri,hparse,rfl⟩ := Option.map_eq_some_iff.mp h
    exact run_of_parse hbound (toOption_eq_some.mp hparse) backend
  · cases h

end Running

section Sending
variable {backend : Backend} {limit : Duration} {sent : Request}

theorem connecting_of_plain (h : sent.uri.scheme = some "http") (backend : Backend) :
    connecting backend sent.uri = backend.connection := by
  simp [connecting, h]

theorem connecting_of_scheme (h : sent.uri.scheme ≠ some "http") (backend : Backend) :
    connecting backend sent.uri = .after 0 false := by
  simp [connecting, h]

theorem received?_eq_some {received : Forwarded} :
    received? backend limit sent = some received ↔ sent.uri.scheme = some "http" ∧
      backend.connection.InTime limit true ∧ onConnection sent = received := by
  rw [received?, Option.ite_none_right_eq_some, beq_iff_eq, Eventual.within_eq_some,
    Option.some.injEq, ← and_assoc]
  refine and_congr_left' ?_
  by_cases hscheme : sent.uri.scheme = some "http"
  · rw [connecting_of_plain hscheme]
    exact (and_iff_right hscheme).symm
  · rw [connecting_of_scheme hscheme, Eventual.inTime_after]
    exact iff_of_false (fun h => Bool.false_ne_true h.1) (fun h => hscheme h.1)

/-- The connection fails, or the request comes to a service. -/
theorem inTime_sending {result : Except TransportFault Response} :
    (sending backend sent).InTime limit result ↔
      ((connecting backend sent.uri).InTime limit false ∧ .error .connect = result) ∨
      ∃ wait later service, connecting backend sent.uri = .after wait true ∧
        backend.serve (onConnection sent) = .after later service ∧ wait + later ≤ limit ∧
        resultOf service = result := by
  rw [sending, Eventual.inTime_bind]
  constructor
  · rintro ⟨wait,connected,later,hconnection,hnext,hlimit⟩
    cases connected with
    | false =>
      cases hnext
      exact .inl ⟨⟨wait,hconnection,hlimit⟩,rfl⟩
    | true =>
      obtain ⟨service,hservice,hresult⟩ := Eventual.map_eq_after.mp hnext
      exact .inr ⟨wait,later,service,hconnection,hservice,hlimit,hresult⟩
  · rintro (⟨⟨wait,hconnection,hlimit⟩,rfl⟩ | ⟨wait,later,service,hconnection,hservice,hlimit,rfl⟩)
    · exact ⟨wait,false,0,hconnection,rfl,hlimit⟩
    · exact ⟨wait,true,later,hconnection,Eventual.map_eq_after.mpr ⟨service,hservice,rfl⟩,hlimit⟩

theorem within_sending_of_scheme (h : sent.uri.scheme ≠ some "http") (backend : Backend)
    (limit : Duration) : (sending backend sent).within limit = some (.error .connect) := by
  rw [Eventual.within_eq_some, inTime_sending, connecting_of_scheme h]
  exact .inl ⟨⟨0,rfl,Duration.zero_le limit⟩,rfl⟩

variable (hplain : sent.uri.scheme = some "http")

include hplain in
theorem within_sending_of_refused (h : backend.connection.InTime limit false) :
    (sending backend sent).within limit = some (.error .connect) := by
  rw [Eventual.within_eq_some, inTime_sending, connecting_of_plain hplain]
  exact .inl ⟨h,rfl⟩

include hplain in
theorem within_sending_of_serves {service : Service}
    (h : backend.Serves limit (onConnection sent) service) :
    (sending backend sent).within limit = some (resultOf service) := by
  rw [Eventual.within_eq_some, inTime_sending, connecting_of_plain hplain]
  obtain ⟨wait,later,hconnection,hservice,hlimit⟩ := h
  exact .inr ⟨wait,later,service,hconnection,hservice,hlimit,rfl⟩

include hplain in
theorem within_sending_eq_none (hrefused : ¬ backend.connection.InTime limit false)
    (hserves : ∀ service, ¬ backend.Serves limit (onConnection sent) service) :
    (sending backend sent).within limit = none := by
  rw [Eventual.within_eq_none]
  intro result hresult
  rw [inTime_sending, connecting_of_plain hplain] at hresult
  rcases hresult with ⟨hfailed,_⟩ | ⟨wait,later,service,hconnection,hservice,hlimit,_⟩
  · exact hrefused hfailed
  · exact hserves service ⟨wait,later,hconnection,hservice,hlimit⟩

end Sending

section Waiting
variable {proxy : Proxy} {backend : Backend} {request : Request}

theorem received_roundTrip :
    (roundTrip proxy backend request).received =
      received? backend proxy.config.timeout request := by
  cases h : (sending backend request).within proxy.config.timeout with
  | none => simp only [roundTrip, h]
  | some result => cases result <;> simp only [roundTrip, h]

theorem outcome_of_response {response : Response}
    (h : (sending backend request).within proxy.config.timeout = some (.ok response)) :
    (roundTrip proxy backend request).outcome = (pass proxy response).1 := by
  simp only [roundTrip, h]

theorem outcome_of_fault {fault : TransportFault}
    (h : (sending backend request).within proxy.config.timeout = some (.error fault)) :
    (roundTrip proxy backend request).outcome = .failed (.transport fault) := by
  simp only [roundTrip, h]

theorem outcome_of_silence
    (h : (sending backend request).within proxy.config.timeout = none) :
    (roundTrip proxy backend request).outcome = .failed (.timedOut proxy.config.timeout) := by
  simp only [roundTrip, h]

end Waiting

/-- A name the proxy does not write has what is left of the client's values. -/
theorem values_prepared {config : Config} {request : Request} {name : String} (uri : Uri)
    (hhost : name = "host" → config.replaceHost = true →
      isLegalHeaderValue (Bytes.ofText config.backendHost) = false)
    (hclient : name = "x-forwarded-for" → request.client = none) :
    (prepared config request uri).headers.values name = request.headers.kept.values name := by
  refine Headers.values_forRequest hclient fun hname text htext => ?_
  obtain ⟨hreplace,rfl⟩ : config.replaceHost = true ∧ config.backendHost = text := by
    simpa using htext
  exact hhost hname hreplace

end Exchange

end RebasingProxy
