import RebasingProxy.Proofs.Config
import RebasingProxy.Proofs.Config.Setting

/-! # Requirements on the settings

Five requirements decide whether a configuration is accepted. They are about the values of settings
alone, wherever these come from, and they come in an order: of those that are not met, the first is
reported.
-/
namespace RebasingProxy

structure Requirement where
  holds : Prop
  error : ConfigError

/-- The error reports a requirement that is not met, and all in front of it are. -/
def FirstUnmet (requirements : List Requirement) (error : ConfigError) : Prop :=
  ∃ earlier unmet later, requirements = earlier ++ unmet :: later ∧
    (∀ requirement ∈ earlier, requirement.holds) ∧ ¬ unmet.holds ∧ unmet.error = error

section FirstUnmet
variable {error : ConfigError}

theorem not_firstUnmet_nil : ¬ FirstUnmet [] error := by
  rintro ⟨earlier,unmet,later,hnil,_⟩
  exact absurd hnil.symm (List.append_ne_nil_of_right_ne_nil _ (List.cons_ne_nil _ _))

theorem firstUnmet_cons {first : Requirement} {rest : List Requirement} :
    FirstUnmet (first :: rest) error ↔
      ¬ first.holds ∧ first.error = error ∨ first.holds ∧ FirstUnmet rest error := by
  constructor
  · rintro ⟨earlier,unmet,later,hall,hmet,hunmet⟩
    cases earlier with
    | nil =>
      obtain ⟨rfl,_⟩ := List.cons.inj hall
      exact Or.inl hunmet
    | cons requirement earlier =>
      obtain ⟨rfl,hrest⟩ := List.cons.inj hall
      obtain ⟨hfirst,hmet⟩ := List.forall_mem_cons.mp hmet
      exact Or.inr ⟨hfirst,earlier,unmet,later,hrest,hmet,hunmet⟩
  · rintro (hunmet | ⟨hfirst,earlier,unmet,later,rfl,hmet,hunmet⟩)
    · exact ⟨[],first,rest,rfl,by simp,hunmet⟩
    · exact ⟨first :: earlier,unmet,later,rfl,List.forall_mem_cons.mpr ⟨hfirst,hmet⟩,hunmet⟩

theorem exists_firstUnmet_iff {requirements : List Requirement} :
    (∃ error, FirstUnmet requirements error) ↔
      ¬ ∀ requirement ∈ requirements, requirement.holds := by
  induction requirements with
  | nil => simp [not_firstUnmet_nil]
  | cons first rest ih =>
    rw [List.forall_mem_cons, not_and_or, ← ih]
    by_cases hfirst : first.holds <;> simp [firstUnmet_cons, hfirst]

end FirstUnmet

def requirements (values : (setting : Setting) → setting.Value) : List Requirement :=
  let scheme : String := values .backendScheme
  let path : String := values .bindPath
  let types : Set String := values .rebasedTypes
  let timeout : Duration := values .timeout
  let context : String := values .context
  [⟨scheme = "http" ∨ scheme = "https",.unsupportedScheme scheme⟩,
    ⟨path.toList.head? = some '/',.relativeBindPath path⟩,
    ⟨types.Nonempty,.noRebasedTypes⟩,
    ⟨0 < timeout.nanoseconds,.zeroTimeout⟩,
    ⟨context = "" ∨ ∀ b ∈ Bytes.ofText context, IsLegalByte b,.illegalContext context⟩]

namespace Config
variable {config : Config}

theorem isEmpty_rebasedTypes :
    config.rebasedTypes.isEmpty = true ↔ ¬ {name | config.rebases name = true}.Nonempty := by
  simp [ContentTypes.isEmpty, rebases, ContentTypes.contains, Set.not_nonempty_iff_eq_empty,
    Set.eq_empty_iff_forall_notMem, List.eq_nil_iff_forall_not_mem]

theorem validate_eq_error {error : ConfigError} :
    config.validate = .error error ↔
      FirstUnmet (requirements fun setting => setting.ofConfig config) error := by
  have hscheme : (config.backendScheme != "http" && config.backendScheme != "https") = true ↔
      ¬ (config.backendScheme = "http" ∨ config.backendScheme = "https") := by simp
  have hpath : (config.bindPath.toList.head? != some '/') = true ↔
      ¬ config.bindPath.toList.head? = some '/' := by simp
  have htimeout : config.timeout.isZero = true ↔ ¬ 0 < config.timeout.nanoseconds := by
    simp [Duration.isZero]
  simp only [validate, guard_eq_error, hscheme, hpath, isEmpty_rebasedTypes, htimeout, map_eq_error,
    link_eq_error, not_not, requirements, firstUnmet_cons, not_firstUnmet_nil, and_false, or_false,
    Setting.ofConfig]

theorem validate_eq_ok_iff_requirements :
    config.validate = .ok () ↔
      ∀ requirement ∈ requirements fun setting => setting.ofConfig config, requirement.holds := by
  have haccepted : config.validate = .ok () ↔ ¬ ∃ error, config.validate = .error error := by
    cases config.validate <;> simp
  simp only [haccepted, validate_eq_error, exists_firstUnmet_iff, not_not]

end Config

end RebasingProxy
