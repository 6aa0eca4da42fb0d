import Mathlib.Data.List.TakeWhile
import RebasingProxy.Proofs.Result
import RebasingProxy.Uri.Authority

/-! # Authorities inside longer texts

An authority goes on up to a slash, a question mark or a number sign. No text that is accepted
as an authority holds one of these, so what is read as an authority in a longer text
begins with it. User information may be put in front of any host: behind an accepted
authority, an at sign and a plain character make another one, whose host is that character.
-/
namespace RebasingProxy

namespace Authority

def endpoint (text : List Char) : List Char × Option Nat := (host text, socketNumber? text)

/-- The beginning of a text that is read as its authority. -/
def leading (text : List Char) : List Char := text.takeWhile fun c => !endsAuthority c

theorem leading_append {first : List Char} (h : first.any endsAuthority = false)
    (second : List Char) : leading (first ++ second) = first ++ leading second :=
  List.takeWhile_append_of_pos (fun c hc => by simp [List.any_eq_false.mp h c hc])

theorem leading_append_eq_leading {first second : List Char}
    (h : first.any endsAuthority = true ∨ leading second = []) :
    leading (first ++ second) = leading first := by
  induction first with
  | nil =>
    rcases h with h | h
    · cases h
    · exact h
  | cons a first ih =>
    by_cases ha : endsAuthority a = true
    · simp [leading, ha]
    · have hrest : first.any endsAuthority = true ∨ leading second = [] := by simpa [ha] using h
      have htail := ih hrest
      simp only [leading] at htail ⊢
      simp [ha, htail]

theorem leading_of_notEnds {text : List Char} (h : text.any endsAuthority = false) :
    leading text = text := by
  have hnil := leading_append h []
  simpa [leading] using hnil

theorem leading_prefix (text : List Char) : leading text <+: text :=
  List.takeWhile_prefix _

theorem step_of_isPlain {c : Char} (h : isPlain c = true) (scan : Scan) :
    step scan c = .ok { scan with afterAt := false } := by
  have hcolon : c ≠ ':' := by rintro rfl; exact absurd h (by decide)
  have hopen : c ≠ '[' := by rintro rfl; exact absurd h (by decide)
  have hclose : c ≠ ']' := by rintro rfl; exact absurd h (by decide)
  have hat : c ≠ '@' := by rintro rfl; exact absurd h (by decide)
  have hpercent : c ≠ '%' := by rintro rfl; exact absurd h (by decide)
  simp [step, hcolon, hopen, hclose, hat, hpercent, h]

theorem notEnds_of_step {scan next : Scan} {c : Char} (h : step scan c = .ok next) :
    endsAuthority c = false := by
  cases hends : endsAuthority c with
  | false => rfl
  | true =>
    have hrefused : step scan c = .error .invalidCharacter := by
      simp only [endsAuthority, Bool.or_eq_true, beq_iff_eq] at hends
      rcases hends with (rfl | rfl) | rfl <;> rfl
    rw [hrefused] at h
    cases h

theorem notEnds_of_foldlM {text : List Char} {scan final : Scan}
    (h : text.foldlM step scan = .ok final) : text.any endsAuthority = false := by
  induction text generalizing scan with
  | nil => rfl
  | cons a text ih =>
    rw [List.foldlM_cons] at h
    obtain ⟨next,hnext,hrest⟩ := bind_eq_ok.mp h
    simp [notEnds_of_step hnext, ih hrest]

theorem check_eq_ok {text : List Char} :
    check text = .ok () ↔ ∃ scan, text.foldlM step {} = .ok scan ∧ scan.isComplete = true := by
  rw [check, bind_eq_ok]
  constructor
  · rintro ⟨scan,hscan,hif⟩
    by_cases hcomplete : scan.isComplete = true
    · exact ⟨scan,hscan,hcomplete⟩
    · rw [if_neg hcomplete] at hif
      cases hif
  · rintro ⟨scan,hscan,hcomplete⟩
    exact ⟨scan,hscan,by rw [if_pos hcomplete]⟩

theorem notEnds_of_check {text : List Char} (h : check text = .ok ()) :
    text.any endsAuthority = false := by
  obtain ⟨scan,hscan,_⟩ := check_eq_ok.mp h
  exact notEnds_of_foldlM hscan

/-- The at sign turns an accepted authority into user information. -/
theorem check_at {text : List Char} (h : check text = .ok ()) {c : Char} (hc : isPlain c = true) :
    check (text ++ ['@', c]) = .ok () := by
  obtain ⟨scan,hscan,hcomplete⟩ := check_eq_ok.mp h
  have hat : step scan '@' = .ok { scan with colons := 0, percent := false, afterAt := true } := rfl
  refine check_eq_ok.mpr
    ⟨{ scan with colons := 0, percent := false, afterAt := false },?_,?_⟩
  · rw [List.foldlM_append, hscan]
    change (step scan '@' >>= fun next => step next c >>= pure) = _
    rw [hat]
    change (step _ c >>= pure) = _
    rw [step_of_isPlain hc]
    rfl
  · simp only [Scan.isComplete, Bool.and_eq_true, beq_iff_eq] at hcomplete ⊢
    simp [hcomplete.1.1.1]

theorem host_at (text : List Char) {c : Char} (hc : isPlain c = true) :
    host (text ++ ['@', c]) = [c] := by
  have hcolon : c ≠ ':' := by rintro rfl; exact absurd hc (by decide)
  have hopen : c ≠ '[' := by rintro rfl; exact absurd hc (by decide)
  have hat : c ≠ '@' := by rintro rfl; exact absurd hc (by decide)
  have huser : withoutUser (text ++ ['@', c]) = [c] := by simp [withoutUser, hat]
  simp [host, huser, hopen, hcolon]

end Authority

end RebasingProxy
