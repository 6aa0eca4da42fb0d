import RebasingProxy.Proofs.Exchange.Destination

/-! # The text asked of the backend

Where the backend's path starts with a slash and holds path characters only, the text put together
for a request is read back part by part: host, path and query come out as they went in, whatever
characters the request's path and query hold. Only its length can make it unreadable.
-/
namespace RebasingProxy.Exchange
open Authority

section Reading
variable {config : Config} {rest : String} {query : Option String}

theorem leading_eq_nil {text : List Char} (h : text.head? = some '/') : leading text = [] := by
  cases text with
  | nil => cases h
  | cons c text =>
    obtain rfl : c = '/' := Option.some.inj h
    rfl

theorem readPath_addressed (hpath : config.backendPath.toList.all Uri.isPathChar = true)
    (hrest : rest.toList.all Uri.isPathChar = true)
    (hquery : ∀ words ∈ query, words.toList.all Uri.isQueryChar = true) :
    Uri.readPath ((addressed config rest query).toList.drop config.backendHost.toList.length) =
      .ok (config.backendPath ++ rest, query) := by
  have hboth : (config.backendPath ++ rest).toList.all Uri.isPathChar = true := by
    rw [String.toList_append, List.all_append, hpath, hrest]
    rfl
  have htext : (addressed config rest query).toList.drop config.backendHost.toList.length =
      (config.backendPath ++ rest).toList ++ (Uri.queryText query).toList := by
    simp [addressed]
  rw [htext, Uri.readPath_append hboth query hquery, String.ofList_toList]

theorem parse_addressed (hscheme : config.backendScheme = "http" ∨ config.backendScheme = "https")
    (hhost : check config.backendHost.toList = .ok ()) (hnamed : config.backendHost ≠ "")
    (hhead : config.backendPath.toList.head? = some '/')
    (hpath : config.backendPath.toList.all Uri.isPathChar = true)
    (hrest : rest.toList.all Uri.isPathChar = true)
    (hquery : ∀ words ∈ query, words.toList.all Uri.isQueryChar = true)
    (hsize : (config.backendScheme ++ "://" ++ addressed config rest query).utf8ByteSize ≤
      Uri.maxLength) :
    Uri.parse (config.backendScheme ++ "://" ++ addressed config rest query) =
      .ok { scheme := some config.backendScheme, authority := some config.backendHost
            path := config.backendPath ++ rest, query := query } := by
  have hslash : config.backendPath.toList.any endsAuthority = true := by
    rw [List.any_eq_true]
    exact ⟨'/',List.mem_of_mem_head? hhead,rfl⟩
  have hleading : leading (addressed config rest query).toList = config.backendHost.toList := by
    rw [leading_addressed hhost (Or.inl hslash), leading_eq_nil hhead, List.append_nil]
  have hne : config.backendHost.toList ≠ [] := by simpa using hnamed
  have hempty : ¬ (config.backendPath ++ rest).isEmpty = true := by
    intro h
    rw [String.isEmpty_iff, String.append_eq_empty_iff] at h
    rw [h.1] at hhead
    cases hhead
  refine (Uri.parse_addressed_eq_ok hscheme).mpr
    ⟨hsize,?_,?_,config.backendPath ++ rest,query,?_,?_⟩
  · rwa [hleading]
  · rwa [hleading]
  · rw [hleading]
    exact readPath_addressed hpath hrest hquery
  · rw [hleading, if_neg hempty, String.ofList_toList]

end Reading

/-- A request that is served goes on behind the bind path in one way only. It is sent with the
backend's host, and with the backend's path in the place of the bind path in front, the rest of
the path and the query as they were, and that is what a backend receives that takes the connection
in time. If the whole is too long for a URI, nothing is received. -/
theorem sends_exact_target {config : Config} {proxy : Proxy} (hvalid : config.validate = .ok ())
    (hproxy : Proxy.ofConfig config = .ok proxy)
    (hhost : check config.backendHost.toList = .ok ()) (hnamed : config.backendHost ≠ "")
    (hhead : config.backendPath.toList.head? = some '/')
    (hpath : config.backendPath.toList.all Uri.isPathChar = true) {text : String}
    {request : Request} (hread : Uri.parse text = .ok request.uri)
    (hbound : Path.isBoundBy request.uri.path config.bindPath = true) :
    ∃ rest, request.uri.path = config.bindPath ++ rest ∧
      (∀ other, request.uri.path = config.bindPath ++ other → other = rest) ∧
      (Path.endsInSlash config.bindPath = false → rest = "") ∧
      let asked := config.backendPath ++ rest ++ request.uri.query.elim "" ("?" ++ ·)
      let target := config.backendScheme ++ "://" ++ config.backendHost ++ asked
      (target.utf8ByteSize ≤ 65534 → ∃ sent : Request, handed? config request = some sent ∧
        Uri.parse target = .ok sent.uri ∧ sent.uri.scheme = some config.backendScheme ∧
        sent.uri.authority = some config.backendHost ∧ sent.uri.pathAndQuery = asked ∧
        sent.uri.query = request.uri.query ∧
        ∀ backend, (run proxy backend request).outcome = (roundTrip proxy backend sent).outcome ∧
          (∀ forwarded, (run proxy backend request).received = some forwarded →
            forwarded.target = asked) ∧
          (config.backendScheme = "http" → backend.connection.InTime config.timeout true →
            (run proxy backend request).received ≠ none)) ∧
      (65534 < target.utf8ByteSize → handed? config request = none ∧ ∀ backend,
        (run proxy backend request).outcome.reply.status = .badRequest ∧
          (run proxy backend request).received = none) := by
  obtain ⟨hscheme,_⟩ := Config.validate_eq_ok.mp hvalid
  obtain ⟨rfl,_⟩ := Proxy.of_ofConfig hproxy
  obtain ⟨rest,hrest,hend⟩ := Path.isBoundBy_iff.mp hbound
  obtain ⟨hchars,hquery⟩ := Uri.proper_of_parse hread
  refine ⟨rest,hrest,?_,?_,?_⟩
  · intro other hother
    exact (String.append_right_inj _).mp (hother.symm.trans hrest)
  · intro hopen
    exact hend.resolve_right (by simp [hopen])
  · intro asked whole
    have hrestChars : rest.toList.all Uri.isPathChar = true := by
      rw [hrest, String.toList_append, List.all_append, Bool.and_eq_true] at hchars
      exact hchars.2
    have htext : proxy.config.backendScheme ++ "://" ++
        addressed proxy.config rest request.uri.query = whole := by
      simp [whole, asked, addressed, Uri.queryText_eq_elim, String.append_assoc]
    have htarget : target proxy.config request.uri = whole := (target_eq hrest).trans htext
    constructor
    · intro hsize
      have hparse := parse_addressed hscheme hhost hnamed hhead hpath hrestChars hquery
        (by rwa [htext])
      have hsent := handed?_eq_some.mpr ⟨rest,hrest,hend,_,hparse,rfl⟩
      have hasked :
          proxy.config.backendPath ++ rest ++ Uri.queryText request.uri.query = asked := by
        simp [asked, Uri.queryText_eq_elim]
      rw [htext] at hparse
      refine ⟨_,hsent,hparse,rfl,rfl,hasked,rfl,?_⟩
      intro backend
      rw [run_of_handed? hsent]
      refine ⟨rfl,?_,?_⟩
      · intro forwarded hforwarded
        rw [received_roundTrip, received?_eq_some] at hforwarded
        obtain ⟨_,_,rfl⟩ := hforwarded
        exact hasked
      · intro hplain hconnected
        rw [received_roundTrip, Option.ne_none_iff_exists']
        exact ⟨_,received?_eq_some.mpr ⟨congrArg some hplain,hconnected,rfl⟩⟩
    · intro hlong
      have hparse : Uri.parse (target proxy.config request.uri) = .error .tooLong := by
        rw [htarget]
        exact Uri.parse_of_long hlong
      refine ⟨?_,?_⟩
      · rw [handed?, if_pos hbound, hparse]
        rfl
      · intro backend
        rw [run_of_unreadable hbound hparse]
        exact ⟨rfl,rfl⟩

/-- The bind path comes again behind itself, and the query is empty. -/
theorem sends_exact_target_again :
    let config : Config := { bindPath := "/b/", backendPath := "/d" }
    let proxy : Proxy := { config := config, bases := config.bases, link := none }
    let request : Request := { uri := { path := "/b/x/b/", query := some "" } }
    config.validate = .ok () ∧ Proxy.ofConfig config = .ok proxy ∧
      check config.backendHost.toList = .ok () ∧ config.backendHost ≠ "" ∧
      config.backendPath.toList.head? = some '/' ∧
      config.backendPath.toList.all Uri.isPathChar = true ∧
      Uri.parse "/b/x/b/?" = .ok request.uri ∧
      Path.isBoundBy request.uri.path config.bindPath = true ∧
      ∃ sent : Request, handed? config request = some sent ∧
        sent.uri.authority = some "127.0.0.1:8080" ∧ sent.uri.pathAndQuery = "/dx/b/?" ∧
        ∀ serve, ∃ forwarded, (run proxy (.listening serve) request).received = some forwarded ∧
          forwarded.target = "/dx/b/?" := by
  intro config proxy request
  have hvalid : config.validate = .ok () := by decide
  have hproxy : Proxy.ofConfig config = .ok proxy := by decide
  have hhost : check config.backendHost.toList = .ok () := by decide
  have hread : Uri.parse "/b/x/b/?" = .ok request.uri := by decide
  have hbound : Path.isBoundBy request.uri.path config.bindPath = true := by decide
  obtain ⟨rest,_,honly,_,hshort,_⟩ :=
    sends_exact_target hvalid hproxy hhost (by decide) (by decide) (by decide) hread hbound
  obtain rfl : "x/b/" = rest := honly "x/b/" (by decide)
  obtain ⟨sent,hsent,_,_,hauthority,hasked,_,hrun⟩ := hshort (by decide)
  refine ⟨hvalid,hproxy,hhost,by decide,by decide,by decide,hread,hbound,sent,hsent,hauthority,
    hasked,?_⟩
  intro serve
  obtain ⟨_,hforwarded,hreceived⟩ := hrun (.listening serve)
  obtain ⟨forwarded,hsome⟩ :=
    Option.ne_none_iff_exists'.mp (hreceived rfl ⟨0,rfl,Duration.zero_le _⟩)
  exact ⟨forwarded,hsome,hforwarded forwarded hsome⟩

end RebasingProxy.Exchange
