import RebasingProxy.Proofs.Config
import RebasingProxy.Proofs.Exchange
import RebasingProxy.Proofs.Path
import RebasingProxy.Proofs.Uri

/-! # Where a request is sent

The text asked of the backend is put together from the scheme, the backend's host and path,
and the rest of the request's path and query, and is then read as a URI. Its authority goes on up
to the first character that ends one. If there is none in the backend's path, the rest
of the request's path belongs to the authority as well: the client then writes part of it, and an
at sign there makes user information of everything the configuration put in front.
-/
namespace RebasingProxy
open Authority

def Uri.destination (uri : Uri) : Option String × Option (List Char × Option Nat) :=
  (uri.scheme, uri.authority.map fun authority => endpoint authority.toList)

namespace Config

def destination (config : Config) : Option String × Option (List Char × Option Nat) :=
  (some config.backendScheme, some (endpoint config.backendHost.toList))

/-- The backend's path leads nowhere else than its host does, and nothing of a request's path
belongs to the authority. -/
def Confines (config : Config) : Prop :=
  endpoint (config.backendHost.toList ++ leading config.backendPath.toList) =
      endpoint config.backendHost.toList ∧
    (config.backendPath.toList.any endsAuthority = true ∨
      Path.endsInSlash config.bindPath = false)

instance (config : Config) : Decidable config.Confines :=
  inferInstanceAs (Decidable (_ ∧ _))

end Config

namespace Exchange

section Addressing
variable {config : Config}

def addressed (config : Config) (rest : String) (query : Option String) : String :=
  config.backendHost ++ (config.backendPath ++ rest) ++ Uri.queryText query

theorem target_eq {uri : Uri} {rest : String} (h : uri.path = config.bindPath ++ rest) :
    target config uri = config.backendScheme ++ "://" ++ addressed config rest uri.query := by
  rw [target, h, Path.rebased_append]
  simp [addressed, String.append_assoc]

theorem handed?_eq_some {request sent : Request} :
    handed? config request = some sent ↔ ∃ rest, request.uri.path = config.bindPath ++ rest ∧
      (rest = "" ∨ Path.endsInSlash config.bindPath = true) ∧
      ∃ uri, Uri.parse (config.backendScheme ++ "://" ++ addressed config rest request.uri.query) =
        .ok uri ∧ prepared config request uri = sent := by
  unfold handed?
  constructor
  · intro h
    split at h
    · rename_i hbound
      obtain ⟨rest,hpath,hrest⟩ := Path.isBoundBy_iff.mp hbound
      obtain ⟨uri,hparse,hsent⟩ := Option.map_eq_some_iff.mp h
      rw [toOption_eq_some, target_eq hpath] at hparse
      exact ⟨rest,hpath,hrest,uri,hparse,hsent⟩
    · cases h
  · rintro ⟨rest,hpath,hrest,uri,hparse,hsent⟩
    rw [if_pos (Path.isBoundBy_iff.mpr ⟨rest,hpath,hrest⟩), target_eq hpath, hparse]
    exact congrArg some hsent

variable (hscheme : config.backendScheme = "http" ∨ config.backendScheme = "https")

include hscheme in
theorem destination_of_handed? {request sent : Request} (h : handed? config request = some sent) :
    ∃ rest, request.uri.path = config.bindPath ++ rest ∧
      (rest = "" ∨ Path.endsInSlash config.bindPath = true) ∧
      check (leading (addressed config rest request.uri.query).toList) = .ok () ∧
      sent.uri.destination = (some config.backendScheme,
        some (endpoint (leading (addressed config rest request.uri.query).toList))) := by
  obtain ⟨rest,hpath,hrest,uri,hparse,rfl⟩ := handed?_eq_some.mp h
  obtain ⟨_,_,hcheck,path,query,_,rfl⟩ := (Uri.parse_addressed_eq_ok hscheme).mp hparse
  refine ⟨rest,hpath,hrest,hcheck,?_⟩
  simp [prepared, Uri.destination]

theorem leading_queryText (query : Option String) : leading (Uri.queryText query).toList = [] := by
  cases query with
  | none => rfl
  | some text =>
    rw [Uri.queryText, String.toList_append]
    rfl

variable (hhost : check config.backendHost.toList = .ok ())

include hhost in
/-- If the backend's path ends the authority, or the request's path does not go on, the
authority is written by the configuration alone. -/
theorem leading_addressed {rest : String}
    (h : config.backendPath.toList.any endsAuthority = true ∨ rest = "")
    (query : Option String) :
    leading (addressed config rest query).toList =
      config.backendHost.toList ++ leading config.backendPath.toList := by
  have hbehind : config.backendPath.toList.any endsAuthority = true ∨
      leading (rest ++ Uri.queryText query).toList = [] := by
    rcases h with h | rfl
    · exact Or.inl h
    · exact Or.inr (by simpa using leading_queryText query)
  have htext : (addressed config rest query).toList = config.backendHost.toList ++
      (config.backendPath.toList ++ (rest ++ Uri.queryText query).toList) := by
    simp [addressed]
  rw [htext, leading_append (notEnds_of_check hhost), leading_append_eq_leading hbehind]

include hscheme hhost in
theorem destination_of_cut (hcut : config.backendPath.toList.any endsAuthority = true ∨
      Path.endsInSlash config.bindPath = false) {request sent : Request}
    (h : handed? config request = some sent) :
    sent.uri.destination = (some config.backendScheme,
      some (endpoint (config.backendHost.toList ++ leading config.backendPath.toList))) := by
  obtain ⟨rest,_,hrest,_,hdestination⟩ := destination_of_handed? hscheme h
  have hclosed : config.backendPath.toList.any endsAuthority = true ∨ rest = "" := by
    rcases hcut with hcut | hcut
    · exact Or.inl hcut
    · exact Or.inr (hrest.resolve_right (by simp [hcut]))
  rw [hdestination, leading_addressed hhost hclosed]

include hhost in
/-- Otherwise the request's path writes on at the authority. -/
theorem leading_addressed_open (hopen : config.backendPath.toList.any endsAuthority = false)
    (rest : String) (query : Option String) :
    leading (addressed config rest query).toList =
      config.backendHost.toList ++ config.backendPath.toList ++ leading rest.toList := by
  have hfront :
      (config.backendHost.toList ++ config.backendPath.toList).any endsAuthority = false := by
    rw [List.any_append, notEnds_of_check hhost, hopen]
    rfl
  have htext : (addressed config rest query).toList =
      (config.backendHost.toList ++ config.backendPath.toList) ++
        (rest.toList ++ (Uri.queryText query).toList) := by
    simp [addressed]
  rw [htext, leading_append hfront, leading_append_eq_leading (Or.inr (leading_queryText query))]

include hscheme in
theorem handed?_of_check {rest : String} (hrest : rest ≠ "")
    (hslash : Path.endsInSlash config.bindPath = true)
    (hcheck : check (addressed config rest none).toList = .ok ())
    (hsize : (config.backendScheme ++ "://" ++ addressed config rest none).utf8ByteSize ≤
      Uri.maxLength) :
    ∃ sent, handed? config { uri := { path := config.bindPath ++ rest } } = some sent ∧
      sent.uri.destination = (some config.backendScheme,
        some (endpoint (addressed config rest none).toList)) := by
  have hwhole := leading_of_notEnds (notEnds_of_check hcheck)
  have hne : (addressed config rest none).toList ≠ [] := by
    simp [addressed, hrest]
  have hend : Uri.readPath ((addressed config rest none).toList.drop
      (leading (addressed config rest none).toList).length) = .ok ("", none) := by
    rw [hwhole, List.drop_length]
    rfl
  have hparse : Uri.parse (config.backendScheme ++ "://" ++ addressed config rest none) = .ok _ :=
    (Uri.parse_addressed_eq_ok hscheme).mpr
      ⟨hsize,by rwa [hwhole],by rwa [hwhole],"",none,hend,rfl⟩
  refine ⟨_,handed?_eq_some.mpr ⟨rest,rfl,Or.inr hslash,_,hparse,rfl⟩,?_⟩
  simp [prepared, Uri.destination, hwhole]

theorem exists_mark (name : List Char) : ∃ (mark : String) (c : Char),
    mark.toList = ['@', c] ∧ isPlain c = true ∧ [c] ≠ name ∧
      mark.toList.all Uri.isPathChar = true ∧ mark.utf8ByteSize = 2 := by
  by_cases hname : name = ['a']
  · exact ⟨"@b",'b',by decide,by decide,by simp [hname],by decide,by decide⟩
  · exact ⟨"@a",'a',by decide,by decide,fun h => hname h.symm,by decide,by decide⟩

include hscheme hhost in
/-- If the authority is open to the request's path and some request is sent with two bytes to
spare, then some request is sent to another host. -/
theorem exists_otherHost (hhead : config.bindPath.toList.head? = some '/')
    (hopen : config.backendPath.toList.any endsAuthority = false)
    (hslash : Path.endsInSlash config.bindPath = true) {text : String} {request sent : Request}
    (hread : Uri.parse text = .ok request.uri) (hsent : handed? config request = some sent)
    (htarget : (target config request.uri).utf8ByteSize + 2 ≤ Uri.maxLength)
    (hroom : request.uri.path.utf8ByteSize + 2 ≤ Uri.maxLength) :
    ∃ (text : String) (request sent : Request), Uri.parse text = .ok request.uri ∧
      handed? config request = some sent ∧ ∃ authority : List Char,
        sent.uri.destination = (some config.backendScheme, some (endpoint authority)) ∧
        host authority ≠ host config.backendHost.toList := by
  obtain ⟨rest,hpath,_,hcheck,_⟩ := destination_of_handed? hscheme hsent
  obtain ⟨mark,c,hmark,hplain,hname,hchars,htwo⟩ := exists_mark (host config.backendHost.toList)
  obtain ⟨behind,hbehind⟩ := leading_prefix rest.toList
  -- The part of the path that was read as authority stays, the mark takes the place of the rest.
  let first := String.ofList (leading rest.toList)
  let more := String.ofList behind
  have hrest : rest = first ++ more := by
    apply String.toList_inj.mp
    simpa [first, more] using hbehind.symm
  rw [leading_addressed_open hhost hopen] at hcheck
  rw [target_eq hpath, hrest] at htarget
  rw [hpath, hrest] at hroom
  have htext : (addressed config (first ++ mark) none).toList =
      config.backendHost.toList ++ config.backendPath.toList ++ leading rest.toList ++
        ['@', c] := by
    simp [addressed, first, hmark, Uri.queryText]
  have hmoved : check (addressed config (first ++ mark) none).toList = .ok () := by
    rw [htext]
    exact check_at hcheck hplain
  have hsize : (config.backendScheme ++ "://" ++
      addressed config (first ++ mark) none).utf8ByteSize ≤ Uri.maxLength := by
    simp only [addressed, Uri.queryText, String.utf8ByteSize_append, htwo,
      String.utf8ByteSize_empty] at htarget ⊢
    omega
  have hne : first ++ mark ≠ "" := by
    intro h
    simpa [hmark] using congrArg String.toList h
  obtain ⟨sent,hhanded,hdestination⟩ := handed?_of_check hscheme hne hslash hmoved hsize
  refine ⟨_,_,sent,Uri.parse_pathAndQuery ?_ ?_ none (by simp) ?_,hhanded,_,hdestination,?_⟩
  · simp [hhead]
  · have hall := (Uri.proper_of_parse hread).path
    rw [hpath, hrest] at hall
    simp only [String.toList_append, List.all_append, Bool.and_eq_true] at hall ⊢
    exact ⟨hall.1,hall.2.1,hchars⟩
  · simp only [Uri.queryText, String.utf8ByteSize_append, htwo,
      String.utf8ByteSize_empty] at hroom ⊢
    omega
  · rw [htext, host_at _ hplain]
    exact hname

include hscheme hhost in
theorem exists_elsewhere (hhead : config.bindPath.toList.head? = some '/')
    (hopen : config.backendPath.toList.any endsAuthority = false)
    (hslash : Path.endsInSlash config.bindPath = true) {text : String} {request sent : Request}
    (hread : Uri.parse text = .ok request.uri) (hsent : handed? config request = some sent)
    (htarget : (target config request.uri).utf8ByteSize + 2 ≤ Uri.maxLength)
    (hroom : request.uri.path.utf8ByteSize + 2 ≤ Uri.maxLength) :
    ∃ (text : String) (request sent : Request), Uri.parse text = .ok request.uri ∧
      handed? config request = some sent ∧ sent.uri.destination ≠ config.destination := by
  obtain ⟨text,request,sent,hread,hsent,authority,hdestination,hother⟩ :=
    exists_otherHost hscheme hhost hhead hopen hslash hread hsent htarget hroom
  refine ⟨text,request,sent,hread,hsent,?_⟩
  rw [hdestination, Config.destination]
  intro h
  simp only [Prod.mk.injEq, Option.some.injEq, true_and, endpoint] at h
  exact hother h.1

end Addressing

/-- No request, whatever its path and its query, is sent anywhere but where the configuration
says. -/
def IsFixed (config : Config) : Prop :=
  ∀ (text : String) (request sent : Request), Uri.parse text = .ok request.uri →
    handed? config request = some sent → sent.uri.destination = config.destination

/-- Some request is sent, and it might be longer by two bytes. -/
def HasRoom (config : Config) : Prop :=
  ∃ (text : String) (request sent : Request), Uri.parse text = .ok request.uri ∧
    handed? config request = some sent ∧
    (target config request.uri).utf8ByteSize + 2 ≤ Uri.maxLength ∧
    request.uri.path.utf8ByteSize + 2 ≤ Uri.maxLength

/-- Requests go where an accepted configuration says if it confines them, and it does unless they
have no room to leave. -/
theorem isFixed_iff_confines {config : Config} (hvalid : config.validate = .ok ())
    (hhost : check config.backendHost.toList = .ok ()) :
    (config.Confines → IsFixed config) ∧
      (HasRoom config → IsFixed config → config.Confines) := by
  obtain ⟨hscheme,hhead,_⟩ := Config.validate_eq_ok.mp hvalid
  constructor
  · rintro ⟨hsame,hcut⟩ text request sent _ hsent
    rw [destination_of_cut hscheme hhost hcut hsent, hsame]
    rfl
  · rintro ⟨text,request,sent,hread,hsent,htarget,hroom⟩ hfixed
    by_cases hcut : config.backendPath.toList.any endsAuthority = true ∨
        Path.endsInSlash config.bindPath = false
    · have hsame := hfixed text request sent hread hsent
      rw [destination_of_cut hscheme hhost hcut hsent] at hsame
      simp only [Config.destination, Prod.mk.injEq, Option.some.injEq, true_and] at hsame
      exact ⟨hsame,hcut⟩
    · simp only [not_or, Bool.not_eq_true, Bool.not_eq_false] at hcut
      obtain ⟨text,request,sent,hread,hsent,hne⟩ :=
        exists_elsewhere hscheme hhost hhead hcut.1 hcut.2 hread hsent htarget hroom
      exact absurd (hfixed text request sent hread hsent) hne

/-- With the default paths requests go to the backend's host; without a slash behind the host some
do not. -/
theorem isFixed_default_paths :
    ({} : Config).validate = .ok () ∧ check ({} : Config).backendHost.toList = .ok () ∧
      IsFixed {} ∧ ¬ IsFixed { backendPath := "" } := by
  have hvalid : ({} : Config).validate = .ok () := by decide
  have hhost : check ({} : Config).backendHost.toList = .ok () := by decide
  have hroom : HasRoom { backendPath := "" } :=
    ⟨"/",{ uri := { path := "/" } },_,by decide,rfl,by decide,by decide⟩
  have hopen : IsFixed { backendPath := "" } → Config.Confines { backendPath := "" } :=
    (isFixed_iff_confines (by decide) (by decide)).2 hroom
  exact ⟨hvalid,hhost,(isFixed_iff_confines hvalid hhost).1 (by decide),
    fun hfixed => absurd (hopen hfixed) (by decide)⟩

/-- A request that chooses where it goes: the backend's host is read as user information. -/
theorem destination_of_at_sign :
    let config : Config := { backendHost := "upstream.test:9999", backendPath := "" }
    let request : Request := { uri := { path := "/@127.0.0.1:1/x" } }
    config.validate = .ok () ∧ check config.backendHost.toList = .ok () ∧
      config.backendHost ≠ "" ∧ Uri.parse "/@127.0.0.1:1/x" = .ok request.uri ∧
      config.destination = (some "http", some ("upstream.test".toList, some 9999)) ∧
      (handed? config request).map (fun sent => sent.uri.destination) =
        some (some "http", some ("127.0.0.1".toList, some 1)) := by
  decide

end Exchange

end RebasingProxy
