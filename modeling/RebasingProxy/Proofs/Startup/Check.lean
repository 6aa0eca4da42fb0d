import RebasingProxy.Exchange
import RebasingProxy.Proofs.Config.Requirement
import RebasingProxy.Proofs.Startup

/-! # The check at the start

The settings are examined once, when all sources have been laid over one another. A run goes on
exactly when all requirements are met, and what it goes on with is enough for the proxy: the link
it derives once more cannot fail, and holds nothing that could end a field.
-/
namespace RebasingProxy.Startup

/-- An accepted configuration is all that the proxy needs. -/
theorem exists_proxy {config : Config} (h : config.validate = .ok ()) :
    ∃ proxy, Proxy.ofConfig config = .ok proxy ∧ config.link = .ok proxy.link := by
  obtain ⟨_,_,_,_,link,hlink⟩ := Config.validate_eq_ok.mp h
  refine ⟨{ config := config, bases := config.bases, link := link },?_,hlink⟩
  rw [Proxy.ofConfig, hlink]
  rfl

/-- A file that can be read leads to a configuration exactly when the values that are decided on
meet all requirements, and otherwise to the error of the first one not met. Every configuration has
these values and makes a proxy, whose link is the context in its fixed frame, without controls. -/
theorem resolve_checks (surroundings : Surroundings) (arguments : Arguments) {file : Layer}
    (h : fileLayer surroundings.contentsOf arguments.configFile = .ok file) :
    let values := decided surroundings arguments file
    ((∃ config, resolve surroundings arguments = .ok config) ↔
      ∀ requirement ∈ requirements values, requirement.holds) ∧
    (∀ error, resolve surroundings arguments = .error error ↔
      FirstUnmet (requirements values) error) ∧
    ∀ config, resolve surroundings arguments = .ok config →
      (∀ setting : Setting, setting.ofConfig config = values setting) ∧
      ∃ proxy, Proxy.ofConfig config = .ok proxy ∧
        (proxy.link = none ↔ config.contextUri = "") ∧
        ∀ value, proxy.link = some value →
          value = Bytes.ofText ("<" ++ config.contextUri ++
            ">; rel=\"http://www.w3.org/ns/json-ld#context\"; type=\"application/ld+json\"") ∧
          ∀ b ∈ value, IsLegalByte b := by
  intro values
  let config := merged surroundings arguments file
  have hvalues : (fun setting : Setting => setting.ofConfig config) = values := by
    funext setting
    exact ofConfig_merged surroundings arguments file setting
  have hresolve : resolve surroundings arguments = config.validate.map fun _ => config :=
    resolve_eq h
  refine ⟨?_,?_,?_⟩
  · rw [← hvalues, ← Config.validate_eq_ok_iff_requirements, hresolve]
    constructor
    · rintro ⟨_,haccepted⟩
      obtain ⟨_,hvalid,_⟩ := map_eq_ok.mp haccepted
      exact hvalid
    · intro hvalid
      exact ⟨config,map_eq_ok.mpr ⟨(),hvalid,rfl⟩⟩
  · intro error
    rw [← hvalues, ← Config.validate_eq_error, hresolve, map_eq_error]
  · intro accepted haccepted
    rw [hresolve] at haccepted
    obtain ⟨_,hvalid,rfl⟩ := map_eq_ok.mp haccepted
    obtain ⟨proxy,hproxy,hlink⟩ := exists_proxy hvalid
    have hderived := Config.link_of_eq_ok hlink
    refine ⟨congrFun hvalues,proxy,hproxy,?_,?_⟩
    · by_cases hcontext : config.contextUri = "" <;> simp [hderived, hcontext]
    · intro value hvalue
      rw [hvalue] at hlink hderived
      refine ⟨?_,Config.isLegalByte_of_link hlink⟩
      by_cases hcontext : config.contextUri = ""
      · rw [if_pos hcontext] at hderived
        cases hderived
      · rw [if_neg hcontext] at hderived
        exact Option.some.inj hderived

/-- The file asks for an unknown scheme and no time at all. Hidden by switches both do no harm, and
the context, which is not of seven bits, goes into the link; otherwise the scheme is reported. -/
theorem resolve_checks_hidden_scheme :
    let surroundings := surroundingsWith
      "proxy_scheme = \"ftp\"\nupstream_timeout_secs = 0\ncontext = \"urn:é\""
    let plain : Arguments := { configFile := some "p.toml" }
    let covering : Arguments :=
      { plain with layer := { backendScheme := some "https", timeoutSeconds := some 5 } }
    (∃ file, fileLayer surroundings.contentsOf (some "p.toml") = .ok file) ∧
    resolve surroundings plain = .error (.unsupportedScheme "ftp") ∧
    ∃ config proxy value, resolve surroundings covering = .ok config ∧
      config.backendScheme = "https" ∧ Proxy.ofConfig config = .ok proxy ∧
      proxy.link = some value ∧ 0xc3 ∈ value ∧ ∀ b ∈ value, IsLegalByte b := by
  intro surroundings plain covering
  let file : Layer :=
    { backendScheme := some "ftp", timeoutSeconds := some 0, contextUri := some "urn:é" }
  have hfile : fileLayer surroundings.contentsOf (some "p.toml") = .ok file :=
    fileLayer_surroundingsWith (by decide +kernel)
  obtain ⟨_,hrefused,_⟩ := resolve_checks surroundings plain hfile
  obtain ⟨haccepted,_,hgoesOn⟩ := resolve_checks surroundings covering hfile
  have hunmet : FirstUnmet (requirements (decided surroundings plain file))
      (.unsupportedScheme "ftp") :=
    ⟨[],_,_,rfl,nofun,by decide,rfl⟩
  have hmet : ∀ requirement ∈ requirements (decided surroundings covering file),
      requirement.holds := by
    have hlegal : ∀ b ∈ Bytes.ofText "urn:é", IsLegalByte b :=
      isLegalHeaderValue_iff.mp (by decide)
    have hslash : "/".toList.head? = some '/' := by decide
    simp only [requirements, List.forall_mem_cons]
    exact ⟨Or.inr rfl,hslash,⟨"text/html",Or.inr rfl⟩,by decide,Or.inr hlegal,nofun⟩
  obtain ⟨config,hconfig⟩ := haccepted.mpr hmet
  obtain ⟨hvalues,proxy,hproxy,hlink,hvalue⟩ := hgoesOn config hconfig
  have hscheme : config.backendScheme = "https" := hvalues .backendScheme
  have hcontext : config.contextUri = "urn:é" := hvalues .context
  cases hnone : proxy.link with
  | none => exact absurd (hcontext.symm.trans (hlink.mp hnone)) (by decide)
  | some value =>
    obtain ⟨hframe,hlegal⟩ := hvalue value hnone
    refine ⟨⟨file,hfile⟩,?_,config,proxy,value,hconfig,hscheme,hproxy,hnone,?_,hlegal⟩
    · exact (hrefused _).mpr hunmet
    · rw [hframe, hcontext]
      decide +kernel

end RebasingProxy.Startup
