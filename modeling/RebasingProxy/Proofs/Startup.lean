import RebasingProxy.Startup
import RebasingProxy.Proofs.Config.Setting

/-! # From the sources to a configuration

A run whose command line is accepted and whose configuration file can be read has one configuration,
in which every setting has the value of the highest source that sets it. It is checked only then, so
that what a higher source hides has no part in the outcome.
-/
namespace RebasingProxy

/-- For every setting both say the same, as far down as its value is decided. -/
def Sources.AgreeWhereTheyCount (sources others : Sources) : Prop :=
  ∀ setting : Setting,
    setting.ofSwitches? sources.given = setting.ofSwitches? others.given ∧
    (setting.ofSwitches? sources.given = none →
      setting.ofEnvironment? sources.environment = setting.ofEnvironment? others.environment ∧
      (setting.ofEnvironment? sources.environment = none →
        setting.ofFile? sources.entries = setting.ofFile? others.entries))

theorem Sources.AgreeWhereTheyCount.resolved_eq {sources others : Sources}
    (h : sources.AgreeWhereTheyCount others) (setting : Setting) :
    setting.resolved sources = setting.resolved others := by
  obtain ⟨hswitches,hbelow⟩ := h setting
  unfold Setting.resolved
  rw [← hswitches]
  cases hgiven : setting.ofSwitches? sources.given with
  | some value => rfl
  | none =>
    obtain ⟨henvironment,hfile⟩ := hbelow hgiven
    rw [← henvironment]
    cases hset : setting.ofEnvironment? sources.environment with
    | some value => rfl
    | none => rw [hfile hset]

namespace Startup
variable {surroundings : Surroundings} {argv : List String} {sources : Sources}

/-- The command line is accepted, and so is the configuration file if it names one. -/
def Accepts (surroundings : Surroundings) (argv : List String) : Prop :=
  ∃ parsed file, CommandLine.parse argv = .ok parsed ∧
    fileLayer surroundings.contentsOf parsed.configFile = .ok file

/-- What the file with the given name tells; no file tells nothing. -/
def FileTells (contentsOf : String → Except ReadFault Bytes) : Option String → Toml.Entries → Prop
  | none, entries => entries = []
  | some path, entries => ∃ bytes text, contentsOf path = .ok bytes ∧ bytes.toText? = some text ∧
      Toml.parseDocument text = some entries

structure HasSources (surroundings : Surroundings) (argv : List String) (sources : Sources) :
    Prop where
  spells : CommandLine.Spells argv sources.given
  environment : sources.environment = surroundings.environment
  tells : FileTells surroundings.contentsOf (Setting.file? sources.given) sources.entries

theorem exists_fileTells {contentsOf : String → Except ReadFault Bytes} {path : Option String}
    {layer : Layer} (h : fileLayer contentsOf path = .ok layer) :
    ∃ entries, FileTells contentsOf path entries := by
  cases path with
  | none => exact ⟨[],rfl⟩
  | some path =>
    simp only [fileLayer] at h
    split at h
    · cases h
    · rename_i bytes hbytes
      split at h
      · cases h
      · rename_i text htext
        have hread := mapError_eq_ok.mp h
        cases hentries : Toml.parseDocument text with
        | none => simp [Layer.ofFile, hentries] at hread
        | some entries => exact ⟨entries,bytes,text,hbytes,htext,hentries⟩

theorem ofLayer_fileLayer (setting : Setting) {contentsOf : String → Except ReadFault Bytes}
    {path : Option String} {layer : Layer} {entries : Toml.Entries}
    (h : fileLayer contentsOf path = .ok layer) (htells : FileTells contentsOf path entries) :
    setting.ofLayer layer = setting.ofFile? entries := by
  cases path with
  | none =>
    obtain rfl := Except.ok.inj h
    obtain rfl : entries = [] := htells
    exact setting.ofLayer_empty
  | some path =>
    obtain ⟨bytes,text,hbytes,htext,hentries⟩ := htells
    simp only [fileLayer, hbytes, htext] at h
    have hread : Layer.ofFile text = .ok layer := mapError_eq_ok.mp h
    simp only [Layer.ofFile, hentries] at hread
    exact setting.ofLayer_ofEntries (Toml.nodup_keys_parseDocument hentries) hread

theorem exists_takeAll {parsed : Arguments} {given : List (Switch × String)}
    (hspells : CommandLine.Spells argv given) (hparse : CommandLine.parse argv = .ok parsed) :
    ∃ scan, CommandLine.takeAll {} given = .ok scan ∧ parsed = scan.arguments := by
  rw [CommandLine.parse_of_spells hspells] at hparse
  cases hgiven : CommandLine.takeAll {} given with
  | error halt => simp [hgiven, Except.map] at hparse
  | ok scan =>
    rw [hgiven] at hparse
    exact ⟨scan,rfl,(Except.ok.inj hparse).symm⟩

theorem HasSources.ofFile?_eq (h : HasSources surroundings argv sources) {file : Layer}
    (hfile : fileLayer surroundings.contentsOf (Setting.file? sources.given) = .ok file)
    (setting : Setting) : setting.ofFile? sources.entries = setting.ofLayer file :=
  (ofLayer_fileLayer setting hfile h.tells).symm

theorem exists_entries {given : List (Switch × String)} (hspells : CommandLine.Spells argv given)
    (h : Accepts surroundings argv) :
    ∃ entries, HasSources surroundings argv ⟨given,surroundings.environment,entries⟩ := by
  obtain ⟨parsed,file,hparse,hfile⟩ := h
  obtain ⟨scan,hgiven,rfl⟩ := exists_takeAll hspells hparse
  rw [Setting.configFile_takeAll hgiven] at hfile
  obtain ⟨entries,htells⟩ := exists_fileTells hfile
  exact ⟨entries,hspells,rfl,htells⟩

theorem exists_hasSources (h : Accepts surroundings argv) :
    ∃ sources, HasSources surroundings argv sources := by
  obtain ⟨given,hspells⟩ := CommandLine.exists_spells h.choose_spec.choose_spec.1
  obtain ⟨entries,hsources⟩ := exists_entries hspells h
  exact ⟨_,hsources⟩

def merged (surroundings : Surroundings) (arguments : Arguments) (file : Layer) : Config :=
  (arguments.layer.orElse ((Layer.ofEnvironment surroundings.environment).orElse file)).complete

def decided (surroundings : Surroundings) (arguments : Arguments) (file : Layer)
    (setting : Setting) : setting.Value :=
  (setting.ofLayer arguments.layer <|> setting.ofEnvironment? surroundings.environment <|>
    setting.ofLayer file).getD setting.builtIn

theorem ofConfig_merged (surroundings : Surroundings) (arguments : Arguments) (file : Layer)
    (setting : Setting) :
    setting.ofConfig (merged surroundings arguments file) =
      decided surroundings arguments file setting := by
  rw [merged, decided, Setting.ofConfig_complete, Setting.ofLayer_orElse, Setting.ofLayer_orElse,
    Setting.ofLayer_ofEnvironment]

theorem resolve_eq {arguments : Arguments} {file : Layer}
    (h : fileLayer surroundings.contentsOf arguments.configFile = .ok file) :
    resolve surroundings arguments =
      (merged surroundings arguments file).validate.map fun _ =>
        merged surroundings arguments file := by
  rw [resolve, h]
  change ((merged surroundings arguments file).validate >>= fun _ => pure _) = _
  cases (merged surroundings arguments file).validate <;> rfl

theorem configure_eq {parsed : Arguments} {file : Layer}
    (hparse : CommandLine.parse argv = .ok parsed)
    (hfile : fileLayer surroundings.contentsOf parsed.configFile = .ok file) :
    configure surroundings argv =
      ((merged surroundings parsed file).validate.map fun _ =>
        merged surroundings parsed file).mapError .misconfigured := by
  rw [configure, hparse]
  exact congrArg (Except.mapError StartFault.misconfigured) (resolve_eq hfile)

theorem exists_config (h : Accepts surroundings argv)
    (hsources : HasSources surroundings argv sources) :
    ∃ config : Config, (∀ setting : Setting, setting.ofConfig config = setting.resolved sources) ∧
      configure surroundings argv =
        (config.validate.map fun _ => config).mapError .misconfigured := by
  obtain ⟨parsed,file,hparse,hfile⟩ := h
  obtain ⟨scan,hgiven,rfl⟩ := exists_takeAll hsources.spells hparse
  refine ⟨merged surroundings scan.arguments file,fun setting => ?_,configure_eq hparse hfile⟩
  rw [Setting.configFile_takeAll hgiven] at hfile
  rw [ofConfig_merged, decided, Setting.ofLayer_takeAll setting hgiven,
    ← hsources.ofFile?_eq hfile, ← hsources.environment]
  rfl

def surroundingsWith (file : String) : Surroundings where
  environment name := if name = "BIND_ADDR" then some "" else none
  contentsOf path := if path = "p.toml" then .ok (Bytes.ofText file) else .error .notFound

theorem fileLayer_surroundingsWith {file : String} {layer : Layer}
    (h : Layer.ofFile file = .ok layer) :
    fileLayer (surroundingsWith file).contentsOf (some "p.toml") = .ok layer := by
  simp only [fileLayer, surroundingsWith, if_true, Bytes.toText?_ofText, h]
  rfl

end Startup
end RebasingProxy
