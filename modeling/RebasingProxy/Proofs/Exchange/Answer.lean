import RebasingProxy.Proofs.BodyStream.Whole
import RebasingProxy.Proofs.Config
import RebasingProxy.Proofs.Exchange
import RebasingProxy.Proofs.Headers.Response

/-! # What a client gets of a response

The backend's response reaches the client with its status, its fields put in order and its body
rebased or as it came. Whether a body is rebased is decided when the fields have been put in order,
so a body with a declared length is never touched.
-/
namespace RebasingProxy

namespace Exchange

/-- The request is sent to the backend, which answers with the response in time. -/
def Answered (proxy : Proxy) (backend : Backend) (request : Request) (response : Response) : Prop :=
  ∃ sent, handed? proxy.config request = some sent ∧ sent.uri.scheme = some "http" ∧
    backend.Serves proxy.config.timeout (onConnection sent) (.responds response)

def passedBody (config : Config) (headers : Headers) (body : List Item) : BodyStream :=
  if config.rebases headers.contentType && !headers.contains "content-length" then
    .rebasing body config.bases config.maxLine
  else .passThrough body

section Answering
variable {config : Config} {proxy : Proxy} (hproxy : Proxy.ofConfig config = .ok proxy)
variable {backend : Backend} {request : Request} {response : Response}

include hproxy in
/-- Everything that a response does to the reply. -/
theorem reply_of_answered (h : Answered proxy backend request response) :
    (run proxy backend request).outcome.reply.withLength =
      { status := response.status
        headers := response.headers.passedOn response.status proxy.link
        body := .streamed (passedBody config
          (response.headers.passedOn response.status proxy.link) response.body) } := by
  obtain ⟨sent,hsent,hplain,hserves⟩ := h
  obtain ⟨hconfig,hbases,_⟩ := Proxy.of_ofConfig hproxy
  rw [run_of_handed? hsent, outcome_of_response (within_sending_of_serves hplain hserves)]
  simp only [pass, hconfig, hbases]
  rfl

theorem passedBody_of_rebased {headers : Headers} (body : List Item)
    (htype : headers.contentType ∈ config.rebasedTypes.names)
    (hlength : headers.values "content-length" = []) :
    passedBody config headers body = .rebasing body config.bases config.maxLine := by
  have hcontains : headers.contains "content-length" = false := by
    rw [← Bool.not_eq_true, Headers.contains_iff, hlength]
    simp
  have hrebases : config.rebases headers.contentType = true := List.contains_iff_mem.mpr htype
  rw [passedBody, hcontains, hrebases]
  rfl

theorem passedBody_of_untouched {headers : Headers} (body : List Item)
    (h : ¬ (headers.contentType ∈ config.rebasedTypes.names ∧
      headers.values "content-length" = [])) :
    passedBody config headers body = .passThrough body := by
  have hfalse : (config.rebases headers.contentType && !headers.contains "content-length") =
      false := by
    rw [← Bool.not_eq_true, Bool.and_eq_true, Bool.not_eq_true', ← Bool.not_eq_true,
      Headers.contains_iff, not_not]
    rintro ⟨htype,hlength⟩
    exact h ⟨List.contains_iff_mem.mp htype,hlength⟩
  rw [passedBody, hfalse]
  rfl

include hproxy in
theorem advertised_link :
    Headers.advertised proxy.link "link" =
      if config.contextUri = "" then []
      else [Bytes.ofText (Config.linkText config.contextUri)] := by
  obtain ⟨_,_,hlink⟩ := Proxy.of_ofConfig hproxy
  rw [Config.link_of_eq_ok hlink]
  by_cases hcontext : config.contextUri = ""
  · simp [Headers.advertised, hcontext]
  · simp [Headers.advertised, hcontext]

include hproxy in
/-- The status is the backend's, and so are the values of every name, in order, but for the nine
names that always end with a connection, those the backend's connection names, the length, the link
and the field that exposes it. -/
theorem headers_of_answered (h : Answered proxy backend request response) :
    let reply := (run proxy backend request).outcome.reply.withLength
    let given := response.headers
    let ofConnection := ["connection", "keep-alive", "proxy-connection", "proxy-authenticate",
      "proxy-authorization", "te", "trailer", "transfer-encoding", "upgrade"]
    reply.status = response.status ∧
    (∀ name ∈ ofConnection, reply.headers.values name = []) ∧
    (∀ name, given.NamedByConnection name → reply.headers.values name = []) ∧
    ∀ name, name ∉ ofConnection → ¬ given.NamedByConnection name →
      (299 < response.status.code → reply.headers.values name = given.values name) ∧
      (response.status.code ≤ 299 → reply.headers.values name =
        if name = "content-length" then []
        else if name = "link" then given.values name ++
          (if config.contextUri = "" then []
            else [Bytes.ofText (Config.linkText config.contextUri)])
        else if name = "access-control-expose-headers" then
          given.values name ++ [Bytes.ofText "Link"]
        else given.values name) := by
  intro reply given ofConnection
  have hreply : reply = _ := reply_of_answered hproxy h
  have hends : ∀ name, given.EndsHere name ↔ name ∈ ofConnection ∨ given.NamedByConnection name :=
    fun name => Iff.rfl
  have hdropped : ∀ name, given.EndsHere name → reply.headers.values name = [] := by
    intro name hname
    rw [hreply]
    dsimp only
    rw [Headers.values_passedOn, if_pos hname]
  refine ⟨by rw [hreply],?_,?_,?_⟩
  · exact fun name hname => hdropped name ((hends name).mpr (.inl hname))
  · exact fun name hname => hdropped name ((hends name).mpr (.inr hname))
  · intro name hname hnamed
    have hkept : ¬ given.EndsHere name := fun h => ((hends name).mp h).elim hname hnamed
    rw [hreply]
    dsimp only
    rw [Headers.values_passedOn, if_neg hkept]
    constructor
    · intro hstatus
      rw [Headers.decorated_of_gt hstatus]
    · intro hstatus
      rw [Headers.values_decorated hstatus]
      by_cases hlink : name = "link"
      · rw [hlink, advertised_link hproxy]
        rfl
      · by_cases hexpose : name = "access-control-expose-headers"
        · simp [given, Headers.advertised, hexpose]
        · simp [given, Headers.advertised, hlink, hexpose]

/-- The link joins the one the backend sent. What the connection names is gone, and so are fields
that end with every connection; a field whose name only begins like one of them stays. -/
theorem headers_of_answered_second_link :
    let config : Config := { contextUri := "urn:c" }
    let link := Bytes.ofText (Config.linkText "urn:c")
    let proxy : Proxy := { config := config, bases := config.bases, link := some link }
    let response : Response :=
      { status := { code := 200 }
        headers := ⟨[("link", Bytes.ofText "<a>"), ("x-trace", Bytes.ofText "1"),
          ("keep-alive", Bytes.ofText "timeout=5"), ("upgrade", Bytes.ofText "h2c"),
          ("proxy-authenticate", Bytes.ofText "Basic"), ("upgrade-insecure", Bytes.ofText "1"),
          ("connection", Bytes.ofText "close, X-Trace")]⟩ }
    let backend : Backend := .listening fun _ => .responds response
    let request : Request := { uri := { path := "/x" } }
    let values := (run proxy backend request).outcome.reply.withLength.headers.values
    Proxy.ofConfig config = .ok proxy ∧ Answered proxy backend request response ∧
      values "link" = [Bytes.ofText "<a>", link] ∧ values "x-trace" = [] ∧
      values "connection" = [] ∧ values "keep-alive" = [] ∧ values "upgrade" = [] ∧
      values "proxy-authenticate" = [] ∧ values "upgrade-insecure" = [Bytes.ofText "1"] := by
  intro config link proxy response backend request values
  have hproxy : Proxy.ofConfig config = .ok proxy := by decide
  let sent : Request :=
    prepared config request { scheme := "http", authority := "127.0.0.1:8080", path := "/x" }
  have hanswered : Answered proxy backend request response :=
    ⟨sent,by decide,rfl,Backend.serves_listening _ _ _⟩
  obtain ⟨_,hconnection,hnamed,hkept⟩ := headers_of_answered hproxy hanswered
  refine ⟨hproxy,hanswered,?_,hnamed "x-trace" (by decide +kernel),hconnection _ (by decide),
    hconnection _ (by decide),hconnection _ (by decide),hconnection _ (by decide),?_⟩
  · exact (hkept "link" (by decide) (by decide +kernel)).2 (by decide)
  · exact (hkept "upgrade-insecure" (by decide) (by decide +kernel)).2 (by decide)

/-- The fields that advertise the context stand behind what is left of the backend's own. -/
def Advertises (config : Config) (given delivered : Headers) : Prop :=
  delivered.values "access-control-expose-headers" =
      given.withoutHopByHop.values "access-control-expose-headers" ++ [Bytes.ofText "Link"] ∧
    (config.contextUri ≠ "" → delivered.values "link" =
      given.withoutHopByHop.values "link" ++
        [Bytes.ofText (Config.linkText config.contextUri)])

include hproxy in
/-- A response up to status 299 advertises the context unless a `connection` field of the
backend names one of the fields that do. -/
theorem advertises_iff (h : Answered proxy backend request response)
    (hstatus : response.status.code ≤ 299) :
    Advertises config response.headers
        (run proxy backend request).outcome.reply.withLength.headers ↔
      ¬ response.headers.NamedByConnection "access-control-expose-headers" ∧
        (config.contextUri ≠ "" → ¬ response.headers.NamedByConnection "link") := by
  rw [reply_of_answered hproxy h, Advertises,
    Headers.values_passedOn_eq_append hstatus (by decide) rfl,
    Headers.endsHere_iff_named (by decide)]
  refine and_congr_right fun _ => imp_congr_right fun hcontext => ?_
  have hadded : Headers.advertised proxy.link "link" =
      [Bytes.ofText (Config.linkText config.contextUri)] := by
    rw [advertised_link hproxy, if_neg hcontext]
  rw [Headers.values_passedOn_eq_append hstatus (by decide) hadded,
    Headers.endsHere_iff_named (by decide)]

/-- A response whose connection names another field advertises the context behind its own link. -/
theorem advertises_of_other_name :
    let config : Config := { contextUri := "urn:c" }
    let proxy : Proxy :=
      { config := config, bases := config.bases
        link := some (Bytes.ofText (Config.linkText "urn:c")) }
    let response : Response :=
      { status := { code := 200 }
        headers := ⟨[("link", Bytes.ofText "<a>"), ("connection", Bytes.ofText "X-Link")]⟩ }
    let backend : Backend := .listening fun _ => .responds response
    let request : Request := { uri := { path := "/x" } }
    Proxy.ofConfig config = .ok proxy ∧ Answered proxy backend request response ∧
      response.status.code ≤ 299 ∧
      Advertises config response.headers
        (run proxy backend request).outcome.reply.withLength.headers := by
  intro config proxy response backend request
  have hproxy : Proxy.ofConfig config = .ok proxy := by decide
  let sent : Request :=
    prepared config request { scheme := "http", authority := "127.0.0.1:8080", path := "/x" }
  have hanswered : Answered proxy backend request response :=
    ⟨sent,by decide,rfl,Backend.serves_listening _ _ _⟩
  have hstatus : response.status.code ≤ 299 := by decide
  exact ⟨hproxy,hanswered,hstatus,
    (advertises_iff hproxy hanswered hstatus).mpr (by decide +kernel)⟩

/-- The backend's connection names both fields, and the client gets neither. -/
theorem not_advertises_of_named_fields :
    let config : Config := { contextUri := "http://c.test/x" }
    let proxy : Proxy :=
      { config := config, bases := config.bases
        link := some (Bytes.ofText (Config.linkText "http://c.test/x")) }
    let response : Response :=
      { status := { code := 200 }
        headers := ⟨[("connection", Bytes.ofText "link, access-control-expose-headers")]⟩
        body := [.data (Bytes.ofText "ok")] }
    let backend : Backend := .listening fun _ => .responds response
    let request : Request := { uri := { path := "/" } }
    let reply := (run proxy backend request).outcome.reply.withLength
    config.validate = .ok () ∧ config.contextUri ≠ "" ∧ Proxy.ofConfig config = .ok proxy ∧
      Answered proxy backend request response ∧ response.status.code ≤ 299 ∧
      reply.headers.values "link" = [] ∧
      reply.headers.values "access-control-expose-headers" = [] ∧
      ¬ Advertises config response.headers reply.headers := by
  intro config proxy response backend request reply
  let sent : Request :=
    prepared config request { scheme := "http", authority := "127.0.0.1:8080", path := "/" }
  have hanswered : Answered proxy backend request response :=
    ⟨sent,by decide,rfl,Backend.serves_listening _ _ _⟩
  have hexposed : reply.headers.values "access-control-expose-headers" = [] := by decide +kernel
  refine ⟨by decide,by decide,by decide,hanswered,by decide,by decide +kernel,hexposed,?_⟩
  rintro ⟨hexpose,_⟩
  rw [hexposed] at hexpose
  simp at hexpose

end Answering

end Exchange

end RebasingProxy
