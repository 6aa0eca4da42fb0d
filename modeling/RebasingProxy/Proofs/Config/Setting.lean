import Mathlib.Data.List.Sort
import Mathlib.Data.Set.Basic
import RebasingProxy.CommandLine
import RebasingProxy.Config.File
import RebasingProxy.Proofs.CommandLine
import RebasingProxy.Proofs.Toml.Document

/-! # Settings and their sources

A setting can be given by a switch, by an environment variable where it has one, and by a key of the
configuration file. The highest of these sources that sets it decides, and what none sets has its
built-in value.
-/
namespace RebasingProxy

namespace ContentTypes

theorem contains_insert {types : ContentTypes} {name other : String} :
    (types.insert name).contains other = true ↔ other = name ∨ types.contains other = true := by
  simp only [contains, insert, List.contains_iff_mem]
  exact mem_insertName

theorem contains_foldl_insert {names : List String} {types : ContentTypes} {name : String} :
    (names.foldl insert types).contains name = true ↔
      name ∈ names ∨ types.contains name = true := by
  induction names generalizing types with
  | nil => simp
  | cons first rest ih =>
    rw [List.foldl_cons, ih, contains_insert, List.mem_cons]
    tauto

theorem contains_ofList {names : List String} {name : String} :
    (ofList names).contains name = true ↔ name ∈ names := by
  rw [ofList, contains_foldl_insert]
  exact or_iff_left (by simp [contains, empty])

/-- Sets with the same members are equal. -/
theorem ext_contains {types others : ContentTypes}
    (h : ∀ name, types.contains name = true ↔ others.contains name = true) : types = others := by
  obtain ⟨names,hnames⟩ := types
  obtain ⟨otherNames,hothers⟩ := others
  have hmem : ∀ name, name ∈ names ↔ name ∈ otherNames := by simpa [contains] using h
  have heq : names = otherNames := hnames.eq_of_mem_iff hothers hmem
  subst heq
  rfl

end ContentTypes

inductive Setting
  | bindAddress | bindPath | backendHost | backendPath | backendScheme | context
  | replaceHost | rebasedTypes | timeout | maxLine

structure Sources where
  given : List (Switch × String)
  environment : String → Option String
  entries : Toml.Entries

namespace Setting

/-- The values of a setting. Content types count as a set. -/
@[reducible]
def Value : Setting → Type
  | bindAddress | bindPath | backendHost | backendPath | backendScheme | context => String
  | replaceHost => Bool
  | rebasedTypes => Set String
  | timeout => Duration
  | maxLine => Nat

def ofSwitch? : (setting : Setting) → Switch → String → Option setting.Value
  | bindAddress, .bindAddress, value => some value
  | bindPath, .bindPath, value => some value
  | backendHost, .backendHost, value => some value
  | backendPath, .backendPath, value => some value
  | backendScheme, .backendScheme, value => some value
  | context, .context, value => some value
  | replaceHost, .replaceHost, _ => some true
  | replaceHost, .keepHost, _ => some false
  | rebasedTypes, .rebasedType, name => some {name}
  | timeout, .timeout, value => (Numeral.read value).toOption.map Duration.ofSeconds
  | maxLine, .maxLine, value => (Numeral.read value).toOption
  | _, _, _ => none

/-- What several switches say together: the last one counts, but all content types do. -/
def merge : (setting : Setting) → List setting.Value → Option setting.Value
  | rebasedTypes, sets => if sets = [] then none else some {name | ∃ set ∈ sets, name ∈ set}
  | bindAddress, values | bindPath, values | backendHost, values | backendPath, values
  | backendScheme, values | context, values | replaceHost, values | timeout, values
  | maxLine, values => values.getLast?

def ofSwitches? (setting : Setting) (given : List (Switch × String)) : Option setting.Value :=
  setting.merge (given.filterMap fun entry => setting.ofSwitch? entry.1 entry.2)

/-- What the environment says. An empty variable is one that is set. -/
def ofEnvironment? : (setting : Setting) → (String → Option String) → Option setting.Value
  | bindAddress, environment => environment "BIND_ADDR"
  | bindPath, environment => environment "BIND_PATH"
  | backendHost, environment => environment "PROXY_ADDR"
  | backendPath, environment => environment "PROXY_PATH"
  | backendScheme, environment => environment "PROXY_SCHEME"
  | context, environment => environment "PROXY_LDCONTEXT"
  | _, _ => none

def key : Setting → String
  | bindAddress => "bind_addr"
  | bindPath => "bind_path"
  | backendHost => "proxy_host"
  | backendPath => "proxy_path"
  | backendScheme => "proxy_scheme"
  | context => "context"
  | replaceHost => "rewrite_host"
  | rebasedTypes => "rewrite_types"
  | timeout => "upstream_timeout_secs"
  | maxLine => "max_line_bytes"

def ofValue? : (setting : Setting) → Toml.Value → Option setting.Value
  | bindAddress, value | bindPath, value | backendHost, value | backendPath, value
  | backendScheme, value | context, value => (Layer.textOf value).toOption
  | replaceHost, value => (Layer.booleanOf value).toOption
  | rebasedTypes, value => (Layer.textsOf value).toOption.map fun names => {name | name ∈ names}
  | timeout, value => (Layer.naturalOf "u64" value).toOption.map Duration.ofSeconds
  | maxLine, value => (Layer.naturalOf "usize" value).toOption

def ofFile? (setting : Setting) (entries : Toml.Entries) : Option setting.Value :=
  (entries.lookup setting.key).bind setting.ofValue?

def builtIn : (setting : Setting) → setting.Value
  | bindAddress => ":8090"
  | bindPath => "/"
  | backendHost => "127.0.0.1:8080"
  | backendPath => "/"
  | backendScheme => "http"
  | context => ""
  | replaceHost => false
  | rebasedTypes => {"text/turtle", "text/html"}
  | timeout => .ofSeconds 30
  | maxLine => 65536

/-- The value of the highest source that sets the setting. -/
def resolved (setting : Setting) (sources : Sources) : setting.Value :=
  (setting.ofSwitches? sources.given <|> setting.ofEnvironment? sources.environment <|>
    setting.ofFile? sources.entries).getD setting.builtIn

def ofConfig : (setting : Setting) → Config → setting.Value
  | bindAddress, config => config.bindAddress
  | bindPath, config => config.bindPath
  | backendHost, config => config.backendHost
  | backendPath, config => config.backendPath
  | backendScheme, config => config.backendScheme
  | context, config => config.contextUri
  | replaceHost, config => config.replaceHost
  | rebasedTypes, config => {name | config.rebases name = true}
  | timeout, config => config.timeout
  | maxLine, config => config.maxLine

def ofLayer : (setting : Setting) → Layer → Option setting.Value
  | bindAddress, layer => layer.bindAddress
  | bindPath, layer => layer.bindPath
  | backendHost, layer => layer.backendHost
  | backendPath, layer => layer.backendPath
  | backendScheme, layer => layer.backendScheme
  | context, layer => layer.contextUri
  | replaceHost, layer => layer.replaceHost
  | rebasedTypes, layer => layer.rebasedTypes.map fun types => {name | types.contains name = true}
  | timeout, layer => layer.timeoutSeconds.map Duration.ofSeconds
  | maxLine, layer => layer.maxLine

section Layers
variable (setting : Setting)

theorem ofLayer_empty : setting.ofLayer {} = none := by
  cases setting <;> rfl

theorem ofLayer_orElse (upper lower : Layer) :
    setting.ofLayer (upper.orElse lower) = (setting.ofLayer upper <|> setting.ofLayer lower) := by
  cases setting with
  | rebasedTypes => cases h : upper.rebasedTypes <;> simp [ofLayer, Layer.orElse, h]
  | timeout => cases h : upper.timeoutSeconds <;> simp [ofLayer, Layer.orElse, h]
  | _ => rfl

theorem ofLayer_ofEnvironment (environment : String → Option String) :
    setting.ofLayer (Layer.ofEnvironment environment) = setting.ofEnvironment? environment := by
  cases setting <;> rfl

theorem ofConfig_complete (layer : Layer) :
    setting.ofConfig layer.complete = (setting.ofLayer layer).getD setting.builtIn := by
  cases setting with
  | rebasedTypes =>
    cases h : layer.rebasedTypes with
    | none =>
      ext name
      simp [ofConfig, ofLayer, builtIn, Layer.complete, Config.rebases, h,
        ContentTypes.contains_ofList]
    | some types => simp [ofConfig, ofLayer, Layer.complete, Config.rebases, h]
  | _ => rfl

end Layers

theorem config_ext {config other : Config}
    (h : ∀ setting : Setting, setting.ofConfig config = setting.ofConfig other) :
    config = other := by
  have htypes : config.rebasedTypes = other.rebasedTypes :=
    ContentTypes.ext_contains fun name => Set.ext_iff.mp (h rebasedTypes) name
  cases config
  cases other
  congr
  · exact h bindAddress
  · exact h bindPath
  · exact h backendHost
  · exact h backendPath
  · exact h backendScheme
  · exact h replaceHost
  · exact h context
  · exact h timeout
  · exact h maxLine

section Switches
variable {switch : Switch} {value : String} {arguments next : Arguments}

def overlaid : (setting : Setting) → setting.Value → Option setting.Value → setting.Value
  | rebasedTypes, added, before => before.getD ∅ ∪ added
  | _, later, _ => later

theorem merge_concat (setting : Setting) (values : List setting.Value) (value : setting.Value) :
    setting.merge (values ++ [value]) = some (setting.overlaid value (setting.merge values)) := by
  cases setting with
  | rebasedTypes =>
    have hunion : {name | ∃ set ∈ values ++ [value], name ∈ set} =
        {name | ∃ set ∈ values, name ∈ set} ∪ value := by
      ext name
      simp only [List.mem_append, List.mem_singleton, Set.mem_ofPred_eq, Set.mem_union]
      grind
    cases values with
    | nil => simp [merge, overlaid]
    | cons first rest =>
      simp only [merge, if_neg (List.append_ne_nil_of_right_ne_nil _ (List.cons_ne_nil value [])),
        if_neg (List.cons_ne_nil first rest), hunion]
      rfl
  | _ => exact List.getLast?_concat

theorem numberFor_eq_ok {n : Nat} (h : CommandLine.numberFor switch value = .ok n) :
    (Numeral.read value).toOption = some n :=
  toOption_eq_some.mpr (mapError_eq_ok.mp h)

theorem members_addType {before : Option ContentTypes} {added : String} :
    {name | ((before.getD .empty).insert added).contains name = true} =
      (before.map fun types => {name | types.contains name = true}).getD ∅ ∪
        ({added} : Set String) := by
  ext name
  cases before with
  | none =>
    have hempty : ContentTypes.empty.contains name = false := rfl
    simp [ContentTypes.contains_insert, hempty]
  | some types => simp [ContentTypes.contains_insert]

theorem ofLayer_note (setting : Setting) (h : CommandLine.note arguments switch value = .ok next) :
    setting.ofLayer next.layer =
      match setting.ofSwitch? switch value with
      | none => setting.ofLayer arguments.layer
      | some said => some (setting.overlaid said (setting.ofLayer arguments.layer)) := by
  cases switch with
  | config =>
    simp only [CommandLine.note] at h
    split at h
    · cases h
    · obtain rfl := Except.ok.inj h
      cases setting <;> rfl
  | timeout =>
    obtain ⟨n,hn,hnext⟩ := bind_eq_ok.mp h
    obtain rfl := Except.ok.inj hnext
    cases setting with
    | timeout => simp [ofSwitch?, ofLayer, overlaid, numberFor_eq_ok hn]
    | _ => rfl
  | maxLine =>
    obtain ⟨n,hn,hnext⟩ := bind_eq_ok.mp h
    obtain rfl := Except.ok.inj hnext
    cases setting with
    | maxLine => simp [ofSwitch?, ofLayer, overlaid, numberFor_eq_ok hn]
    | _ => rfl
  | rebasedType =>
    obtain rfl := Except.ok.inj h
    cases setting with
    | rebasedTypes =>
      exact congrArg some members_addType
    | _ => rfl
  | _ =>
    obtain rfl := Except.ok.inj h
    cases setting <;> rfl

/-- The switches of a command line set what they say together. -/
theorem ofLayer_takeAll (setting : Setting) {given : List (Switch × String)}
    {scan : CommandLine.Scan} (h : CommandLine.takeAll {} given = .ok scan) :
    setting.ofLayer scan.arguments.layer = setting.ofSwitches? given := by
  refine CommandLine.takeAll_induction
    (motive := fun given arguments => setting.ofLayer arguments.layer = setting.ofSwitches? given)
    ?_ ?_ h
  · cases setting <;> rfl
  · intro given arguments switch value next hbefore hnote
    rw [setting.ofLayer_note hnote, hbefore, ofSwitches?, ofSwitches?, List.filterMap_append]
    cases hsaid : setting.ofSwitch? switch value with
    | none => simp [hsaid]
    | some said => simp [hsaid, merge_concat]

def file? (given : List (Switch × String)) : Option String :=
  (given.filterMap fun entry => if entry.1 = .config then some entry.2 else none).getLast?

theorem configFile_note (h : CommandLine.note arguments switch value = .ok next) :
    next.configFile = if switch = .config then some value else arguments.configFile := by
  cases switch with
  | config =>
    simp only [CommandLine.note] at h
    split at h
    · cases h
    · obtain rfl := Except.ok.inj h
      rfl
  | timeout =>
    obtain ⟨n,_,hnext⟩ := bind_eq_ok.mp h
    obtain rfl := Except.ok.inj hnext
    rfl
  | maxLine =>
    obtain ⟨n,_,hnext⟩ := bind_eq_ok.mp h
    obtain rfl := Except.ok.inj hnext
    rfl
  | _ =>
    obtain rfl := Except.ok.inj h
    rfl

theorem configFile_takeAll {given : List (Switch × String)} {scan : CommandLine.Scan}
    (h : CommandLine.takeAll {} given = .ok scan) : scan.arguments.configFile = file? given := by
  refine CommandLine.takeAll_induction
    (motive := fun given arguments => arguments.configFile = file? given) ?_ ?_ h
  · rfl
  · intro given arguments switch value next hbefore hnote
    rw [configFile_note hnote, hbefore, file?, file?, List.filterMap_append]
    by_cases hconfig : switch = .config
    · simp [hconfig]
    · simp [hconfig]

end Switches

section Files

theorem ofLayer_setKey (setting : Setting) {layer next : Layer} {key : String} {value : Toml.Value}
    (h : layer.setKey key value = .ok next) :
    if key = setting.key then
      ∃ said, setting.ofValue? value = some said ∧ setting.ofLayer next = some said
    else setting.ofLayer next = setting.ofLayer layer := by
  unfold Layer.setKey at h
  split at h
  case h_11 => cases h
  all_goals
    obtain ⟨said,hsaid,hnext⟩ := bind_eq_ok.mp h
    obtain rfl := Except.ok.inj hnext
    have hvalue := toOption_eq_some.mpr hsaid
    cases setting <;> simp [Setting.key, ofValue?, ofLayer, hvalue, ContentTypes.contains_ofList]

theorem ofLayer_foldlM_setKey (setting : Setting) {entries : Toml.Entries} {layer last : Layer}
    (hkeys : (Toml.keys entries).Nodup)
    (h : entries.foldlM (fun layer entry => layer.setKey entry.1 entry.2) layer = .ok last) :
    setting.ofLayer last = (setting.ofFile? entries <|> setting.ofLayer layer) := by
  induction entries generalizing layer with
  | nil =>
    obtain rfl := Except.ok.inj h
    rfl
  | cons entry rest ih =>
    obtain ⟨key,value⟩ := entry
    rw [List.foldlM_cons] at h
    obtain ⟨next,hnext,hrest⟩ := bind_eq_ok.mp h
    obtain ⟨hnotMem,hkeys⟩ := List.nodup_cons.mp hkeys
    have hset := setting.ofLayer_setKey hnext
    rw [ih hkeys hrest]
    by_cases hkey : key = setting.key
    · rw [if_pos hkey] at hset
      obtain ⟨said,hvalue,hlayer⟩ := hset
      have hrestNone : rest.lookup setting.key = none := by
        rw [← hkey]
        exact Toml.lookup_eq_none_iff_notMem.mpr hnotMem
      have hfound : List.lookup setting.key ((key, value) :: rest) = some value := by
        simp [hkey]
      rw [ofFile?, hrestNone, ofFile?, hfound, hlayer]
      simp [hvalue]
    · rw [if_neg hkey] at hset
      have hfound : List.lookup setting.key ((key, value) :: rest) = rest.lookup setting.key := by
        simp [List.lookup_cons, beq_eq_false_iff_ne.mpr (Ne.symm hkey)]
      rw [ofFile?, ofFile?, hfound, hset]

/-- The entries of a file set what the keys of the settings say. -/
theorem ofLayer_ofEntries (setting : Setting) {entries : Toml.Entries} {layer : Layer}
    (hkeys : (Toml.keys entries).Nodup) (h : Layer.ofEntries entries = .ok layer) :
    setting.ofLayer layer = setting.ofFile? entries := by
  rw [setting.ofLayer_foldlM_setKey hkeys h, ofLayer_empty]
  cases setting.ofFile? entries <;> rfl

end Files

end Setting
end RebasingProxy
