import RebasingProxy.Proofs.Config
import RebasingProxy.Proofs.Exchange
import RebasingProxy.Proofs.FieldText
import RebasingProxy.Proofs.Path
import RebasingProxy.Proofs.Uri

/-! # What becomes of a request

A request is served, redirected to the bind path, or refused. The reply to a request that fails
tells its status and nothing else, so it gives away neither paths nor targets nor what the backend
did. A redirect leads to a path that is served, so it is never followed by another one.
-/
namespace RebasingProxy

/-- The bind path itself, and everything under it if it ends in a slash. -/
def Config.Serves (config : Config) (path : String) : Prop :=
  path = config.bindPath ∨
    Path.endsInSlash config.bindPath = true ∧ config.bindPath.toList <+: path.toList

theorem Config.serves_iff {config : Config} {path : String} :
    config.Serves path ↔ Path.isBoundBy path config.bindPath = true := by
  by_cases hslash : Path.endsInSlash config.bindPath = true
  · rw [Path.isBoundBy, if_pos hslash, List.isPrefixOf_iff_prefix, Serves]
    constructor
    · rintro (rfl | ⟨_,hbegins⟩)
      · exact List.prefix_rfl
      · exact hbegins
    · exact fun hbegins => Or.inr ⟨hslash,hbegins⟩
  · rw [Path.isBoundBy, if_neg hslash, beq_iff_eq]
    exact ⟨fun h => h.resolve_right fun hboth => hslash hboth.1,Or.inl⟩

def Status.plainReply (status : Status) : Reply :=
  let phrase := Bytes.ofText (status.reason?.getD "error" ++ "\n")
  { status := status
    headers := ⟨[("content-type", Bytes.ofText "text/plain; charset=utf-8"),
      ("content-length", Bytes.ofText (toString phrase.length))]⟩
    body := .fixed phrase }

namespace Failure

theorem withLength_reply (failure : Failure) :
    failure.reply.withLength = failure.status.plainReply := by
  have hlower : lowerCase "content-type" = "content-type" := by decide +kernel
  simp [reply, Reply.withLength, ReplyBody.sizeHint, Status.plainReply, Headers.ofList,
    Headers.insert, Headers.remove, Headers.append, hlower]

theorem code_status (failure : Failure) : failure.status.code ∈ [400, 404, 502, 504] := by
  cases failure <;> simp [status, Status.notFound, Status.badRequest, Status.badGateway,
    Status.gatewayTimeout]

end Failure

namespace Outcome

def TurnsAway : Outcome → Prop
  | redirected _ => True
  | failed (.notRouted _) => True
  | _ => False

theorem withLength_reply_redirected (location : String) :
    (redirected location).reply.withLength =
      { status := .movedPermanently
        headers := ⟨[("location", Bytes.ofText location), ("content-length", Bytes.ofText "0")]⟩
        body := .fixed [] } := by
  have hlower : lowerCase "location" = "location" := by decide +kernel
  have hzero : Nat.repr 0 = "0" := rfl
  simp [reply, Reply.withLength, ReplyBody.sizeHint, Headers.ofList, Headers.insert,
    Headers.remove, Headers.append, hlower, hzero]

end Outcome

namespace Uri

theorem Proper.slashed {uri : Uri} (h : Proper uri) {path : String}
    (hpath : uri.path ++ "/" = path) : Proper { path := path, query := uri.query } := by
  refine ⟨?_,h.query⟩
  rw [← hpath, String.toList_append, List.all_append, h.path]
  rfl

theorem isLegalText_pathAndQuery {uri : Uri} (h : Proper uri) :
    IsLegalText uri.pathAndQuery := by
  have hpath : ∀ c ∈ uri.path.toList, 0x20 ≤ c.toNat ∧ c.toNat ≠ 0x7f := by
    intro c hc
    have hchar := List.all_eq_true.mp h.path c hc
    simp only [isPathChar, Bool.or_eq_true, Bool.and_eq_true, decide_eq_true_eq] at hchar
    omega
  have hquery : ∀ c ∈ (queryText uri.query).toList, 0x20 ≤ c.toNat ∧ c.toNat ≠ 0x7f := by
    intro c hc
    cases hwords : uri.query with
    | none => simp [hwords, queryText] at hc
    | some words =>
      rw [hwords, queryText, String.toList_append, List.mem_append] at hc
      rcases hc with hmark | hc
      · obtain rfl : c = '?' := by simpa using hmark
        decide
      · have hchar := List.all_eq_true.mp (h.query words hwords) c hc
        simp only [isQueryChar, Bool.or_eq_true, Bool.and_eq_true, decide_eq_true_eq] at hchar
        omega
  intro c hc
  rw [pathAndQuery, String.toList_append, List.mem_append] at hc
  exact Or.inl (hc.elim (hpath c) (hquery c))

end Uri

namespace Exchange

/-- The exchange is what the backend makes of the request that is sent, in the time it has. -/
structure Follows (backend : Backend) (limit : Duration) (sent : Request) (exchange : Exchange) :
    Prop where
  received : ∀ forwarded, exchange.received = some forwarded ↔ sent.uri.scheme = some "http" ∧
    backend.connection.InTime limit true ∧ onConnection sent = forwarded
  unspoken : sent.uri.scheme ≠ some "http" →
    exchange.outcome.reply.withLength = Status.badGateway.plainReply
  refused : sent.uri.scheme = some "http" → backend.connection.InTime limit false →
    exchange.outcome.reply.withLength = Status.badGateway.plainReply
  brokenOff : sent.uri.scheme = some "http" →
    backend.Serves limit (onConnection sent) .breaksOff →
    exchange.outcome.reply.withLength = Status.badGateway.plainReply
  answered : sent.uri.scheme = some "http" →
    ∀ response, backend.Serves limit (onConnection sent) (.responds response) →
    exchange.outcome.reply.withLength.status = response.status
  unanswered : sent.uri.scheme = some "http" → ¬ backend.connection.InTime limit false →
    (∀ service, ¬ backend.Serves limit (onConnection sent) service) →
    exchange.outcome.reply.withLength = Status.gatewayTimeout.plainReply

theorem Follows.received_eq_none {backend : Backend} {limit : Duration} {sent : Request}
    {exchange : Exchange} (h : Follows backend limit sent exchange)
    (hconnected : ¬ backend.connection.InTime limit true) : exchange.received = none := by
  rw [Option.eq_none_iff_forall_ne_some]
  intro forwarded hforwarded
  exact hconnected ((h.received forwarded).mp hforwarded).2.1

section Waiting
variable {proxy : Proxy} {backend : Backend} {sent : Request}

theorem reply_of_fault {fault : TransportFault}
    (h : (sending backend sent).within proxy.config.timeout = some (.error fault)) :
    (roundTrip proxy backend sent).outcome.reply.withLength = Status.badGateway.plainReply := by
  rw [outcome_of_fault h]
  exact Failure.withLength_reply _

theorem follows_roundTrip :
    Follows backend proxy.config.timeout sent (roundTrip proxy backend sent) where
  received forwarded := by
    rw [received_roundTrip]
    exact received?_eq_some
  unspoken hscheme := reply_of_fault (within_sending_of_scheme hscheme backend _)
  refused hplain hrefused := reply_of_fault (within_sending_of_refused hplain hrefused)
  brokenOff hplain hserves := reply_of_fault (within_sending_of_serves hplain hserves)
  answered hplain response hserves := by
    rw [outcome_of_response (within_sending_of_serves hplain hserves)]
    rfl
  unanswered hplain hrefused hserves := by
    rw [outcome_of_silence (within_sending_eq_none hplain hrefused hserves)]
    exact Failure.withLength_reply _

theorem not_turnsAway_roundTrip : ¬ (roundTrip proxy backend sent).outcome.TurnsAway := by
  cases h : (sending backend sent).within proxy.config.timeout with
  | none =>
    rw [outcome_of_silence h]
    exact id
  | some result =>
    cases result with
    | ok response =>
      rw [outcome_of_response h]
      exact id
    | error fault =>
      rw [outcome_of_fault h]
      exact id

end Waiting

section Turning
variable {proxy : Proxy} {request : Request}

theorem routed_of_serves (h : proxy.config.Serves request.uri.path) (backend : Backend) :
    (run proxy backend request).events.head? =
        some (.routed request.uri.text (target proxy.config request.uri)) ∧
      ¬ (run proxy backend request).outcome.TurnsAway := by
  have hbound := Config.serves_iff.mp h
  cases hparse : Uri.parse (target proxy.config request.uri) with
  | error error =>
    rw [run_of_unreadable hbound hparse]
    exact ⟨rfl,id⟩
  | ok uri =>
    rw [run_of_parse hbound hparse]
    exact ⟨rfl,not_turnsAway_roundTrip⟩

theorem run_of_lacksSlash (h : ¬ proxy.config.Serves request.uri.path)
    (hlacks : request.uri.path ++ "/" = proxy.config.bindPath) (backend : Backend) :
    let location := proxy.config.bindPath ++ Uri.queryText request.uri.query
    run proxy backend request =
      { outcome := .redirected location, events := [.redirecting location] } := by
  have hslash : Path.endsInSlash proxy.config.bindPath = true := by
    rw [← hlacks]
    exact Path.endsInSlash_append_slash request.uri.path
  rw [run_of_notBound (fun hbound => h (Config.serves_iff.mpr hbound)), turnAway, if_pos]
  simp [hslash, hlacks]

theorem run_of_notRouted (h : ¬ proxy.config.Serves request.uri.path)
    (hlacks : request.uri.path ++ "/" ≠ proxy.config.bindPath) (backend : Backend) :
    run proxy backend request = { outcome := .failed (.notRouted request.uri.path) } := by
  rw [run_of_notBound (fun hbound => h (Config.serves_iff.mpr hbound)), turnAway, if_neg]
  simp [hlacks]

end Turning

/-- A path under the bind path is served, if the text asked of the backend can be read, and what
comes of that follows the backend. A path that lacks the bind path's last slash is redirected, to a
path that is served. Every other path is not found. Failures with one status have one reply. -/
theorem outcome_of_request {config : Config} {proxy : Proxy} (hvalid : config.validate = .ok ())
    (hproxy : Proxy.ofConfig config = .ok proxy) {text : String} {request : Request}
    (hread : Uri.parse text = .ok request.uri) (backend : Backend) :
    let exchange := run proxy backend request
    let reply := exchange.outcome.reply.withLength
    let path := request.uri.path
    let location := config.bindPath ++ request.uri.query.elim "" ("?" ++ ·)
    (config.Serves path →
      exchange.events.head? = some (.routed request.uri.text (target config request.uri)) ∧
      ¬ exchange.outcome.TurnsAway ∧
      (∀ error, Uri.parse (target config request.uri) = .error error →
        exchange.received = none ∧ reply = Status.badRequest.plainReply) ∧
      ∀ uri, Uri.parse (target config request.uri) = .ok uri → ∃ sent : Request, sent.uri = uri ∧
        Follows backend config.timeout sent exchange ∧
        ∀ forwarded, exchange.received = some forwarded → forwarded.method = request.method ∧
          forwarded.target = uri.pathAndQuery ∧ forwarded.body = request.body) ∧
    (¬ config.Serves path → path ++ "/" = config.bindPath →
      exchange.received = none ∧
      reply = { status := .movedPermanently, body := .fixed []
                headers := ⟨[("location", Bytes.ofText location),
                  ("content-length", Bytes.ofText "0")]⟩ } ∧
      isLegalHeaderValue (Bytes.ofText location) = true ∧
      (location.utf8ByteSize ≤ 65534 → ∃ again, Uri.parse location = .ok again ∧
        config.Serves again.path ∧ ∀ backend later, later.uri = again →
          ¬ (run proxy backend later).outcome.TurnsAway)) ∧
    (¬ config.Serves path → path ++ "/" ≠ config.bindPath →
      exchange.received = none ∧ reply = Status.notFound.plainReply) ∧
    ∀ failure, exchange.outcome = .failed failure →
      reply.status.code ∈ [400, 404, 502, 504] ∧ reply = reply.status.plainReply ∧
      ∀ other : Failure, other.status = reply.status →
        (Outcome.failed other).reply.withLength = reply := by
  intro exchange reply path location
  obtain ⟨_,hhead,_⟩ := Config.validate_eq_ok.mp hvalid
  obtain ⟨rfl,_⟩ := Proxy.of_ofConfig hproxy
  refine ⟨?_,?_,?_,?_⟩
  · intro hserves
    obtain ⟨hrouted,hturns⟩ := routed_of_serves hserves backend
    have hbound := Config.serves_iff.mp hserves
    refine ⟨hrouted,hturns,?_,?_⟩
    · intro error hparse
      have hrun : exchange = _ := run_of_unreadable hbound hparse backend
      simp only [reply, hrun]
      exact ⟨trivial,Failure.withLength_reply _⟩
    · intro uri hparse
      let sent := prepared proxy.config request uri
      have hrun : exchange = _ := run_of_parse hbound hparse backend
      have hfollows : Follows backend proxy.config.timeout sent exchange := by
        rw [hrun]
        exact { follows_roundTrip with }
      refine ⟨sent,rfl,hfollows,?_⟩
      intro forwarded hforwarded
      obtain ⟨_,_,rfl⟩ := (hfollows.received forwarded).mp hforwarded
      exact ⟨rfl,rfl,rfl⟩
  · intro hserves hlacks
    -- The bind path has no more than the request's path and a slash, so it can be read as well.
    let again : Uri := { path := proxy.config.bindPath, query := request.uri.query }
    have hagain : again.Proper := (Uri.proper_of_parse hread).slashed hlacks
    have hlocation : location = again.pathAndQuery := by
      simp only [location, again, Uri.pathAndQuery, Uri.queryText_eq_elim]
    have hrun : exchange = _ := run_of_lacksSlash hserves hlacks backend
    refine ⟨?_,?_,?_,?_⟩
    · rw [hrun]
    · rw [hlocation]
      simp only [reply, hrun]
      exact Outcome.withLength_reply_redirected _
    · rw [hlocation]
      exact isLegalHeaderValue_ofText (Uri.isLegalText_pathAndQuery hagain)
    · intro hsize
      have hbound : proxy.config.Serves again.path := Or.inl rfl
      refine ⟨again,?_,hbound,?_⟩
      · rw [hlocation] at hsize ⊢
        exact Uri.parse_pathAndQuery hhead hagain.path again.query hagain.query hsize
      · rintro backend later hlater
        rw [← hlater] at hbound
        exact (routed_of_serves hbound backend).2
  · intro hserves hlacks
    have hrun : exchange = _ := run_of_notRouted hserves hlacks backend
    simp only [reply, hrun]
    exact ⟨trivial,Failure.withLength_reply _⟩
  · intro failure hfailed
    have hreply : reply = failure.status.plainReply := by
      simp only [reply, hfailed]
      exact Failure.withLength_reply failure
    rw [hreply]
    refine ⟨failure.code_status,rfl,?_⟩
    intro other hother
    have hsame : other.status = failure.status := hother
    rw [← hsame]
    exact Failure.withLength_reply other

/-- One request of each kind. Of the backends one answers, one refuses, one never takes a
connection, and one takes twenty seconds for the connection and as many for the answer, more than
the thirty there are for both. -/
theorem outcome_of_request_each_kind :
    let config : Config := { bindPath := "/ldp/" }
    let proxy : Proxy := { config := config, bases := config.bases, link := none }
    let bare : Request := { uri := { path := "/ldp", query := some "q" } }
    let inner : Request := { method := "PUT", uri := { path := "/ldp/a" } }
    let other : Request := { uri := { path := "/x" } }
    let ready : Backend := .listening fun _ => .responds { status := .notFound }
    let closed : Backend := { connection := .after (.ofSeconds 1) false, serve := fun _ => .never }
    let hanging : Backend := { connection := .never, serve := fun _ => .never }
    let slow : Backend :=
      { connection := .after (.ofSeconds 20) true
        serve := fun _ => .after (.ofSeconds 20) (.responds { status := .notFound }) }
    let tells (reply : Reply) (code : Nat) (length phrase : String) : Prop :=
      reply.status.code = code ∧ reply.body = .fixed (Bytes.ofText phrase) ∧
        reply.headers = ⟨[("content-type", Bytes.ofText "text/plain; charset=utf-8"),
          ("content-length", Bytes.ofText length)]⟩
    let reply (backend : Backend) := (run proxy backend inner).outcome.reply.withLength
    let received (backend : Backend) := (run proxy backend inner).received
    config.validate = .ok () ∧ Proxy.ofConfig config = .ok proxy ∧
      Uri.parse "/ldp?q" = .ok bare.uri ∧ Uri.parse "/ldp/a" = .ok inner.uri ∧
      Uri.parse "/x" = .ok other.uri ∧
      (∀ backend, (run proxy backend bare).received = none ∧
        (run proxy backend bare).outcome.reply.withLength =
          { status := .movedPermanently
            headers := ⟨[("location", Bytes.ofText "/ldp/?q"),
              ("content-length", Bytes.ofText "0")]⟩ } ∧
        (run proxy backend bare).outcome.reply.withLength.status.code = 301 ∧
        ∃ again, Uri.parse "/ldp/?q" = .ok again ∧ config.Serves again.path) ∧
      (∀ backend, (run proxy backend other).received = none ∧
        tells (run proxy backend other).outcome.reply.withLength 404 "10" "Not Found\n") ∧
      (reply ready).status.code = 404 ∧
      (∃ forwarded, received ready = some forwarded ∧ forwarded.method = "PUT" ∧
        forwarded.target = "/a") ∧
      tells (reply closed) 502 "12" "Bad Gateway\n" ∧ received closed = none ∧
      tells (reply hanging) 504 "16" "Gateway Timeout\n" ∧ received hanging = none ∧
      tells (reply slow) 504 "16" "Gateway Timeout\n" ∧ received slow ≠ none := by
  intro config proxy bare inner other ready closed hanging slow tells reply received
  have hvalid : config.validate = .ok () := by decide
  have hproxy : Proxy.ofConfig config = .ok proxy := by decide
  have hbare : Uri.parse "/ldp?q" = .ok bare.uri := by decide
  have hinner : Uri.parse "/ldp/a" = .ok inner.uri := by decide
  have hother : Uri.parse "/x" = .ok other.uri := by decide
  have hserves : ∀ {path : String}, config.Serves path ↔ Path.isBoundBy path "/ldp/" = true :=
    Config.serves_iff
  let asked : Uri := { scheme := "http", authority := "127.0.0.1:8080", path := "/a" }
  have hasked : Uri.parse (target config inner.uri) = .ok asked := by decide
  have hsent : ∀ backend, ∃ sent : Request, sent.uri.scheme = some "http" ∧
      Follows backend config.timeout sent (run proxy backend inner) ∧
      ∀ forwarded, received backend = some forwarded →
        forwarded.method = "PUT" ∧ forwarded.target = "/a" := by
    intro backend
    obtain ⟨hserved,_⟩ := outcome_of_request hvalid hproxy hinner backend
    obtain ⟨_,_,_,hparsed⟩ := hserved (hserves.mpr (by decide))
    obtain ⟨sent,huri,hfollows,hforwarded⟩ := hparsed asked hasked
    refine ⟨sent,by rw [huri],hfollows,?_⟩
    intro forwarded hreceived
    obtain ⟨hmethod,htarget,_⟩ := hforwarded forwarded hreceived
    exact ⟨hmethod,htarget⟩
  have hlate : ∀ backend, ¬ backend.connection.InTime config.timeout false →
      (∀ forwarded service, ¬ backend.Serves config.timeout forwarded service) →
      tells (reply backend) 504 "16" "Gateway Timeout\n" := by
    intro backend hrefused hnever
    obtain ⟨sent,hscheme,hfollows,_⟩ := hsent backend
    rw [show reply backend = _ from hfollows.unanswered hscheme hrefused (hnever _)]
    exact ⟨rfl,rfl,rfl⟩
  have hnothing : ∀ backend, ¬ backend.connection.InTime config.timeout true →
      received backend = none := by
    intro backend hconnected
    obtain ⟨sent,_,hfollows,_⟩ := hsent backend
    exact hfollows.received_eq_none hconnected
  refine ⟨hvalid,hproxy,hbare,hinner,hother,?_,?_,?_,?_,?_,?_,?_,?_,?_,?_⟩
  · intro backend
    obtain ⟨_,hredirected,_⟩ := outcome_of_request hvalid hproxy hbare backend
    obtain ⟨hnone,hreply,_,hback⟩ := hredirected (by rw [hserves]; decide) (by decide)
    obtain ⟨again,hagain,hserved,_⟩ := hback (by decide)
    exact ⟨hnone,hreply,congrArg (·.status.code) hreply,again,hagain,hserved⟩
  · intro backend
    obtain ⟨_,_,hrefused,_⟩ := outcome_of_request hvalid hproxy hother backend
    obtain ⟨hnone,hreply⟩ := hrefused (by rw [hserves]; decide) (by decide)
    rw [hreply]
    exact ⟨hnone,rfl,rfl,rfl⟩
  · obtain ⟨sent,hscheme,hfollows,_⟩ := hsent ready
    exact congrArg Status.code (hfollows.answered hscheme _ (Backend.serves_listening _ _ _))
  · obtain ⟨sent,hscheme,hfollows,hforwarded⟩ := hsent ready
    have hreceived : received ready = some (onConnection sent) :=
      (hfollows.received _).mpr ⟨hscheme,⟨0,rfl,by decide⟩,rfl⟩
    exact ⟨_,hreceived,hforwarded _ hreceived⟩
  · obtain ⟨sent,hscheme,hfollows,_⟩ := hsent closed
    rw [show reply closed = _ from hfollows.refused hscheme ⟨_,rfl,by decide⟩]
    exact ⟨rfl,rfl,rfl⟩
  · exact hnothing closed (by simp [closed])
  · exact hlate hanging (by simp [hanging]) fun _ _ ⟨_,_,hconnected,_⟩ => by cases hconnected
  · exact hnothing hanging (by simp [hanging])
  · refine hlate slow (by simp [slow]) ?_
    rintro _ _ ⟨_,_,⟨⟩,⟨⟩,htime⟩
    exact absurd htime (by decide)
  · obtain ⟨sent,hscheme,hfollows,_⟩ := hsent slow
    have hreceived : received slow = some (onConnection sent) :=
      (hfollows.received _).mpr ⟨hscheme,⟨_,rfl,by decide⟩,rfl⟩
    rw [hreceived]
    exact Option.some_ne_none _

end Exchange

end RebasingProxy
