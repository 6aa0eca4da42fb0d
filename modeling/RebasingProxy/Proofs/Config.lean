import Mathlib.Logic.Basic
import RebasingProxy.Config
import RebasingProxy.Proofs.FieldText
import RebasingProxy.Proofs.Result

/-! # Accepted configurations -/
namespace RebasingProxy.Config

theorem validate_eq_ok {config : Config} :
    config.validate = .ok () ↔
      (config.backendScheme = "http" ∨ config.backendScheme = "https") ∧
      config.bindPath.toList.head? = some '/' ∧ config.rebasedTypes.isEmpty = false ∧
      config.timeout.isZero = false ∧ ∃ link, config.link = .ok link := by
  have hlink : (config.link.map fun _ => ()) = .ok () ↔ ∃ link, config.link = .ok link := by
    simp [map_eq_ok]
  simp only [validate, guard_eq_ok, hlink, Bool.and_eq_true, bne_iff_ne, not_and_or, not_not,
    Bool.not_eq_true]

/-- The bind path is part of the external base, and it has a slash at least. -/
theorem external_ne_nil {config : Config} (h : config.validate = .ok ()) :
    config.bases.external ≠ [] := by
  obtain ⟨_,hslash,_⟩ := validate_eq_ok.mp h
  intro hnil
  have hempty : config.bindAddress ++ config.bindPath = "" := Bytes.ofText_eq_nil_iff.mp hnil
  have hpath : config.bindPath = "" := (String.append_eq_empty_iff.mp hempty).2
  rw [hpath] at hslash
  exact absurd hslash (by decide)

theorem link_of_eq_ok {config : Config} {link : Option Bytes} (h : config.link = .ok link) :
    link = if config.contextUri = "" then none
      else some (Bytes.ofText (linkText config.contextUri)) := by
  unfold Config.link at h
  by_cases hcontext : config.contextUri = ""
  · rw [if_pos (by simp [hcontext])] at h
    rw [if_pos hcontext]
    exact (Except.ok.inj h).symm
  · rw [if_neg (by simpa using hcontext)] at h
    rw [if_neg hcontext]
    dsimp only at h
    split at h
    · exact (Except.ok.inj h).symm
    · cases h

theorem isLegalByte_of_link {config : Config} {value : Bytes} (h : config.link = .ok (some value)) :
    ∀ b ∈ value, IsLegalByte b := by
  unfold Config.link at h
  split at h
  · cases h
  · dsimp only at h
    split at h
    · rename_i hlegal
      cases h
      exact isLegalHeaderValue_iff.mp hlegal
    · cases h

/-- What stands around the context in a link is always legal. -/
theorem isLegalHeaderValue_linkText {context : String} :
    isLegalHeaderValue (Bytes.ofText (linkText context)) = true ↔
      ∀ b ∈ Bytes.ofText context, IsLegalByte b := by
  have hopen : isLegalHeaderValue (Bytes.ofText "<") = true := by decide
  have hclose : isLegalHeaderValue (Bytes.ofText
      ">; rel=\"http://www.w3.org/ns/json-ld#context\"; type=\"application/ld+json\"") = true := by
    decide
  rw [← isLegalHeaderValue_iff]
  simp only [isLegalHeaderValue] at hopen hclose ⊢
  rw [linkText, Bytes.ofText_append, Bytes.ofText_append, List.all_append, List.all_append, hopen,
    hclose, Bool.true_and, Bool.and_true]

theorem link_eq_error {config : Config} {error : ConfigError} :
    config.link = .error error ↔
      ¬ (config.contextUri = "" ∨ ∀ b ∈ Bytes.ofText config.contextUri, IsLegalByte b) ∧
        .illegalContext config.contextUri = error := by
  rw [← isLegalHeaderValue_linkText]
  unfold Config.link
  by_cases hcontext : config.contextUri = ""
  · simp [hcontext]
  · by_cases hlegal : isLegalHeaderValue (Bytes.ofText (linkText config.contextUri)) = true <;>
      simp [hcontext, hlegal]

end RebasingProxy.Config
