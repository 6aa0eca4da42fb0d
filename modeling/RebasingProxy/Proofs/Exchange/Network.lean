import RebasingProxy.Proofs.Exchange.Destination

/-! # Which configurations can proxy

Several backends may listen, each at an address of its own. A request reaches the one at the address
it is sent to, and only over a plain connection. So the scheme decides whether any backend is
reached, and the paths decide whether it is the configured one.
-/
namespace RebasingProxy
open Authority

/-- Host and socket number of a plain connection, which has number 80 where none is given. -/
def Authority.plainAddress (endpoint : List Char × Option Nat) : List Char × Nat :=
  (endpoint.1, endpoint.2.getD 80)

namespace Config

def backendAddress (config : Config) : List Char × Nat :=
  plainAddress (endpoint config.backendHost.toList)

/-- The backend's path does not change the address, and neither can a request's path. -/
def KeepsAddress (config : Config) : Prop :=
  plainAddress (endpoint (config.backendHost.toList ++ leading config.backendPath.toList)) =
      config.backendAddress ∧
    (config.backendPath.toList.any endsAuthority = true ∨
      Path.endsInSlash config.bindPath = false)

instance (config : Config) : Decidable config.KeepsAddress :=
  inferInstanceAs (Decidable (_ ∧ _))

end Config

namespace Exchange

abbrev Network := List Char × Nat → Backend

def Network.backendOf (network : Network) (uri : Uri) : Backend :=
  uri.destination.2.elim .unreachable fun endpoint => network (plainAddress endpoint)

def runIn (network : Network) (proxy : Proxy) (request : Request) : Exchange :=
  let backend := (handed? proxy.config request).elim .unreachable fun sent =>
    network.backendOf sent.uri
  run proxy backend request

/-- Wherever a backend at the configured address answers every request in time, the client gets each
answer with its status. -/
def CanProxy (config : Config) : Prop :=
  ∀ proxy, Proxy.ofConfig config = .ok proxy →
  ∀ (network : Network) (answer : Forwarded → Response),
    (∀ received, (network config.backendAddress).Serves config.timeout received
      (.responds (answer received))) →
    ∀ (text : String) (request sent : Request), Uri.parse text = .ok request.uri →
      handed? config request = some sent → ∃ headers body,
        (runIn network proxy request).outcome =
          .proxied (answer (onConnection sent)).status headers body

section Reaching
variable {proxy : Proxy} {request sent : Request}

theorem runIn_of_handed? (h : handed? proxy.config request = some sent) (network : Network) :
    (runIn network proxy request).outcome =
      (roundTrip proxy (network.backendOf sent.uri) sent).outcome := by
  rw [runIn, run_of_handed? h, h]
  rfl

theorem outcome_of_scheme (h : sent.uri.scheme ≠ some "http") (backend : Backend) :
    (roundTrip proxy backend sent).outcome = .failed (.transport .connect) :=
  outcome_of_fault (within_sending_of_scheme h backend _)

theorem outcome_of_unreachable :
    (roundTrip proxy .unreachable sent).outcome = .failed (.transport .connect) := by
  by_cases hplain : sent.uri.scheme = some "http"
  · exact outcome_of_fault (within_sending_of_refused hplain ⟨0,rfl,Duration.zero_le _⟩)
  · exact outcome_of_scheme hplain _

theorem outcome_of_serves (hplain : sent.uri.scheme = some "http") {backend : Backend}
    {response : Response} (h : backend.Serves proxy.config.timeout (onConnection sent)
      (.responds response)) :
    ∃ headers body, (roundTrip proxy backend sent).outcome =
      .proxied response.status headers body := by
  rw [outcome_of_response (within_sending_of_serves hplain h)]
  exact ⟨_,_,rfl⟩

end Reaching

/-- A configuration can proxy if every request it sends goes to the backend in plain `http`. -/
theorem canProxy_iff_sent {config : Config} {proxy : Proxy}
    (hproxy : Proxy.ofConfig config = .ok proxy) :
    CanProxy config ↔ ∀ (text : String) (request sent : Request),
      Uri.parse text = .ok request.uri → handed? config request = some sent →
        sent.uri.scheme = some "http" ∧
          sent.uri.destination.2.map plainAddress = some config.backendAddress := by
  obtain ⟨rfl,_⟩ := Proxy.of_ofConfig hproxy
  constructor
  · intro hcan text request sent hread hsent
    -- Nothing listens but the backend.
    let network : Network := fun address =>
      if address = proxy.config.backendAddress then
        .listening fun _ => .responds { status := .notFound }
      else .unreachable
    have hlistens : network proxy.config.backendAddress =
        .listening fun _ => .responds { status := .notFound } := if_pos rfl
    obtain ⟨headers,body,hproxied⟩ := hcan proxy hproxy network (fun _ => { status := .notFound })
      (fun received => by rw [hlistens]; exact Backend.serves_listening _ _ received)
      text request sent hread hsent
    rw [runIn_of_handed? hsent] at hproxied
    have hnot : (roundTrip proxy (network.backendOf sent.uri) sent).outcome ≠
        .failed (.transport .connect) := by
      intro hfailed
      rw [hfailed] at hproxied
      cases hproxied
    refine ⟨?_,?_⟩
    · by_contra hscheme
      exact hnot (outcome_of_scheme hscheme _)
    · cases hendpoint : sent.uri.destination.2 with
      | none =>
        refine absurd ?_ hnot
        rw [Network.backendOf, hendpoint]
        exact outcome_of_unreachable
      | some endpoint =>
        rw [Option.map_some, Option.some.injEq]
        by_contra hother
        have hnobody : network.backendOf sent.uri = .unreachable := by
          rw [Network.backendOf, hendpoint]
          exact if_neg hother
        rw [hnobody] at hnot
        exact hnot outcome_of_unreachable
  · intro hall proxy' hproxy' network answer hanswers text request sent hread hsent
    obtain ⟨hconfig,_⟩ := Proxy.of_ofConfig hproxy'
    obtain ⟨hscheme,haddress⟩ := hall text request sent hread hsent
    obtain ⟨endpoint,hendpoint,hthere⟩ := Option.map_eq_some_iff.mp haddress
    have hbackend : network.backendOf sent.uri = network proxy.config.backendAddress := by
      rw [Network.backendOf, hendpoint, Option.elim_some, hthere]
    have hserves := hanswers (onConnection sent)
    rw [← hbackend, ← hconfig] at hserves
    rw [← hconfig] at hsent
    rw [runIn_of_handed? hsent]
    exact outcome_of_serves hscheme hserves

theorem destination_of_keepsAddress {config : Config} (hvalid : config.validate = .ok ())
    (hhost : check config.backendHost.toList = .ok ()) (hkeeps : config.KeepsAddress)
    {request sent : Request} (hsent : handed? config request = some sent) :
    sent.uri.scheme = some config.backendScheme ∧
      sent.uri.destination.2.map plainAddress = some config.backendAddress := by
  obtain ⟨hscheme,_⟩ := Config.validate_eq_ok.mp hvalid
  obtain ⟨hsame,hcut⟩ := hkeeps
  have hdestination := destination_of_cut hscheme hhost hcut hsent
  exact ⟨congrArg Prod.fst hdestination,by rw [hdestination, Option.map_some, hsame]⟩

def Sends (config : Config) : Prop :=
  ∃ (text : String) (request sent : Request), Uri.parse text = .ok request.uri ∧
    handed? config request = some sent

/-- An accepted configuration can proxy if it uses plain `http` and keeps the backend's address. It
has to, unless it sends nothing, or has no room to send a request elsewhere. -/
theorem canProxy_iff {config : Config} (hvalid : config.validate = .ok ())
    (hhost : check config.backendHost.toList = .ok ()) :
    (config.backendScheme = "http" → config.KeepsAddress → CanProxy config) ∧
      (Sends config → CanProxy config → config.backendScheme = "http") ∧
      (HasRoom config → CanProxy config → config.KeepsAddress) := by
  obtain ⟨hscheme,hhead,_,_,link,hlink⟩ := Config.validate_eq_ok.mp hvalid
  obtain ⟨proxy,hproxy⟩ : ∃ proxy, Proxy.ofConfig config = .ok proxy :=
    ⟨_,bind_eq_ok.mpr ⟨link,hlink,rfl⟩⟩
  rw [canProxy_iff_sent hproxy]
  refine ⟨?_,?_,?_⟩
  · intro hplain hkeeps text request sent _ hsent
    rw [← hplain]
    exact destination_of_keepsAddress hvalid hhost hkeeps hsent
  · rintro ⟨text,request,sent,hread,hsent⟩ hall
    obtain ⟨_,_,_,_,hdestination⟩ := destination_of_handed? hscheme hsent
    have hsame := (hall text request sent hread hsent).1
    rw [show sent.uri.scheme = some config.backendScheme from congrArg Prod.fst hdestination]
      at hsame
    exact Option.some.inj hsame
  · rintro ⟨text,request,sent,hread,hsent,htarget,hroom⟩ hall
    by_cases hcut : config.backendPath.toList.any endsAuthority = true ∨
        Path.endsInSlash config.bindPath = false
    · have hsame := (hall text request sent hread hsent).2
      rw [destination_of_cut hscheme hhost hcut hsent, Option.map_some] at hsame
      exact ⟨Option.some.inj hsame,hcut⟩
    · simp only [not_or, Bool.not_eq_true, Bool.not_eq_false] at hcut
      obtain ⟨text,request,sent,hread,hsent,authority,hdestination,hother⟩ :=
        exists_otherHost hscheme hhost hhead hcut.1 hcut.2 hread hsent htarget hroom
      have hsame := (hall text request sent hread hsent).2
      rw [hdestination, Option.map_some] at hsame
      exact absurd (congrArg Prod.fst (Option.some.inj hsame)) hother

/-- The default configuration can proxy; it cannot with the other scheme that is accepted, nor
without a slash behind the host. -/
theorem canProxy_default :
    ({} : Config).validate = .ok () ∧ CanProxy {} ∧
      ({ backendScheme := "https" } : Config).validate = .ok () ∧
      ¬ CanProxy { backendScheme := "https" } ∧
      ({ backendPath := "" } : Config).validate = .ok () ∧ ¬ CanProxy { backendPath := "" } := by
  have hvalid : ({} : Config).validate = .ok () := by decide
  have hsecure : ({ backendScheme := "https" } : Config).validate = .ok () := by decide
  have hopen : ({ backendPath := "" } : Config).validate = .ok () := by decide
  have hhost : check ({} : Config).backendHost.toList = .ok () := by decide
  have hsends : Sends { backendScheme := "https" } :=
    ⟨"/",{ uri := { path := "/" } },_,by decide,rfl⟩
  have hroom : HasRoom { backendPath := "" } :=
    ⟨"/",{ uri := { path := "/" } },_,by decide,rfl,by decide,by decide⟩
  refine ⟨hvalid,(canProxy_iff hvalid hhost).1 rfl (by decide),hsecure,?_,hopen,?_⟩
  · intro hcan
    exact absurd ((canProxy_iff hsecure hhost).2.1 hsends hcan) (by decide)
  · intro hcan
    exact absurd ((canProxy_iff hopen hhost).2.2 hroom hcan) (by decide)

/-- With the scheme `https`, which is accepted, every request fails, whatever listens. -/
theorem not_canProxy_of_https :
    let config : Config := { backendScheme := "https", backendHost := "upstream.test:9999" }
    let proxy : Proxy := { config := config, bases := config.bases, link := none }
    let request : Request := { uri := { path := "/" } }
    config.validate = .ok () ∧ Proxy.ofConfig config = .ok proxy ∧
      Uri.parse "/" = .ok request.uri ∧ (handed? config request).isSome = true ∧
      (∀ network, (runIn network proxy request).outcome = .failed (.transport .connect)) ∧
      (Outcome.failed (.transport .connect)).reply.status = .badGateway ∧ ¬ CanProxy config := by
  intro config proxy request
  have hproxy : Proxy.ofConfig config = .ok proxy := by decide
  have hread : Uri.parse "/" = .ok request.uri := by decide
  have hsome : (handed? config request).isSome = true := by decide
  obtain ⟨sent,hsent⟩ := Option.isSome_iff_exists.mp hsome
  have hscheme : sent.uri.scheme ≠ some "http" := by
    have hall : ∀ sent ∈ handed? config request, sent.uri.scheme ≠ some "http" := by decide
    exact hall sent hsent
  have hsent' : handed? proxy.config request = some sent := hsent
  have hfails : ∀ network, (runIn network proxy request).outcome =
      .failed (.transport .connect) := by
    intro network
    rw [runIn_of_handed? hsent', outcome_of_scheme hscheme]
  refine ⟨by decide,hproxy,hread,hsome,hfails,rfl,?_⟩
  intro hcan
  let network : Network := fun _ => .listening fun _ => .responds { status := .notFound }
  obtain ⟨headers,body,hproxied⟩ := hcan proxy hproxy network (fun _ => { status := .notFound })
    (Backend.serves_listening _ _) "/" request sent hread hsent
  rw [hfails] at hproxied
  cases hproxied

end Exchange
end RebasingProxy
