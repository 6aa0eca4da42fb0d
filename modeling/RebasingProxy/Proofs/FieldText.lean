import Mathlib.Data.List.Basic
import RebasingProxy.Headers
import RebasingProxy.IpAddress

/-! # Texts that can stand in a field

A text without controls can be written into a field, whatever its letters. What can be read from a
field as text is of that kind, and so is every address, so a chain of addresses put together from
the two is never refused.
-/
namespace RebasingProxy

def IsFieldText (text : String) : Prop :=
  ∀ c ∈ text.toList, 0x20 ≤ c.toNat ∧ c.toNat < 0x7f ∨ c.toNat = 0x09

def IsLegalText (text : String) : Prop :=
  ∀ c ∈ text.toList, 0x20 ≤ c.toNat ∧ c.toNat ≠ 0x7f ∨ c.toNat = 0x09

theorem IsFieldText.isLegalText {text : String} (h : IsFieldText text) : IsLegalText text := by
  intro c hc
  have hchar := h c hc
  omega

/-- A character of seven bits is one byte; all bytes of the others have the eighth bit. -/
theorem toNat_of_mem_utf8EncodeChar {c : Char} {b : UInt8} (h : b ∈ String.utf8EncodeChar c) :
    b.toNat = c.toNat ∨ 0x80 ≤ b.toNat ∧ 0x80 ≤ c.toNat := by
  have hnat : c.val.toNat = c.toNat := rfl
  simp only [String.utf8EncodeChar, hnat] at h
  split at h
  · left
    rw [List.mem_singleton.mp h, UInt8.toNat_ofNat']
    omega
  · right
    have hlead : ∃ n, 0x80 ≤ n ∧ n < 0x100 ∧ b = UInt8.ofNat n := by
      split at h
      · simp only [List.mem_cons, List.not_mem_nil, or_false] at h
        rcases h with h | h
        all_goals exact ⟨_,by omega,by omega,h⟩
      · split at h
        · simp only [List.mem_cons, List.not_mem_nil, or_false] at h
          rcases h with h | h | h
          all_goals exact ⟨_,by omega,by omega,h⟩
        · simp only [List.mem_cons, List.not_mem_nil, or_false] at h
          rcases h with h | h | h | h
          all_goals exact ⟨_,by omega,by omega,h⟩
    obtain ⟨n,hlow,hhigh,rfl⟩ := hlead
    rw [UInt8.toNat_ofNat']
    omega

/-- No control but the tab. -/
def IsLegalByte (b : UInt8) : Prop := 0x20 ≤ b ∧ b ≠ 0x7f ∨ b = 0x09

theorem isLegalHeaderValue_iff {value : Bytes} :
    isLegalHeaderValue value = true ↔ ∀ b ∈ value, IsLegalByte b := by
  simp [isLegalHeaderValue, IsLegalByte]

theorem isLegalHeaderValue_ofText {text : String} (h : IsLegalText text) :
    isLegalHeaderValue (Bytes.ofText text) = true := by
  rw [isLegalHeaderValue_iff]
  intro b hb
  obtain ⟨c,hc,hb⟩ := List.mem_flatMap.mp hb
  have hchar := h c hc
  have hbyte := toNat_of_mem_utf8EncodeChar hb
  simp only [IsLegalByte, UInt8.le_iff_toNat_le, ne_eq, ← UInt8.toNat_inj, UInt8.toNat_ofNat]
  omega

theorem toNat_ofNat_of_lt {n : Nat} (h : n < 0x80) : (Char.ofNat n).toNat = n := by
  have hvalid : n.isValidChar := Or.inl (by omega)
  rw [Char.ofNat, dif_pos hvalid]
  rfl

theorem headerText?_eq_some {value : Bytes} {text : String} :
    headerText? value = some text ↔
      (∀ b ∈ value, 0x20 ≤ b.toNat ∧ b.toNat < 0x7f ∨ b.toNat = 0x09) ∧
        String.ofList (value.map fun b => Char.ofNat b.toNat) = text := by
  simp [headerText?, UInt8.le_iff_toNat_le, UInt8.lt_iff_toNat_lt, ← UInt8.toNat_inj]

theorem isFieldText_of_headerText? {value : Bytes} {text : String}
    (h : headerText? value = some text) : IsFieldText text := by
  obtain ⟨hbytes,rfl⟩ := headerText?_eq_some.mp h
  intro c hc
  rw [String.toList_ofList] at hc
  obtain ⟨b,hb,rfl⟩ := List.mem_map.mp hc
  have hbyte := hbytes b hb
  rw [toNat_ofNat_of_lt (by omega)]
  exact hbyte

/-- A value that can be read as text is the encoding of that text. -/
theorem ofText_of_headerText? {value : Bytes} {text : String} (h : headerText? value = some text) :
    Bytes.ofText text = value := by
  obtain ⟨hbytes,rfl⟩ := headerText?_eq_some.mp h
  have hone : ∀ b ∈ value, String.utf8EncodeChar (Char.ofNat b.toNat) = [b] := by
    intro b hb
    have hbyte := hbytes b hb
    have hnat : (Char.ofNat b.toNat).val.toNat = b.toNat := toNat_ofNat_of_lt (by omega)
    rw [String.utf8EncodeChar, hnat, if_pos (by omega), UInt8.ofNat_toNat]
  rw [Bytes.ofText, String.toList_ofList, List.flatMap_map, List.flatMap_congr hone,
    List.flatMap_singleton']

theorem IsFieldText.append {front back : String} (hfront : IsFieldText front)
    (hback : IsFieldText back) : IsFieldText (front ++ back) := by
  intro c hc
  rw [String.toList_append] at hc
  exact (List.mem_append.mp hc).elim (hfront c) (hback c)

theorem IsFieldText.intercalate {between : String} (hbetween : IsFieldText between)
    {texts : List String} (h : ∀ text ∈ texts, IsFieldText text) :
    IsFieldText (between.intercalate texts) := by
  induction texts with
  | nil => simp [IsFieldText]
  | cons text texts ih =>
    obtain ⟨htext,htexts⟩ := List.forall_mem_cons.mp h
    cases texts with
    | nil => simpa using htext
    | cons next texts =>
      rw [String.intercalate_cons_cons]
      exact (htext.append hbetween).append (ih htexts)

theorem isFieldText_toDigits {base : Nat} (hlow : 1 < base) (hhigh : base ≤ 16) (n : Nat) :
    IsFieldText (String.ofList (Nat.toDigits base n)) := by
  have hdigit : ∀ d < 16, 0x20 ≤ (Nat.digitChar d).toNat ∧ (Nat.digitChar d).toNat < 0x7f := by
    decide
  intro c hc
  rw [String.toList_ofList] at hc
  induction n using Nat.strongRecOn with
  | ind n ih =>
    rw [Nat.toDigits_eq_if hlow] at hc
    split at hc
    · rename_i hn
      rw [List.mem_singleton.mp hc]
      exact Or.inl (hdigit n (by omega))
    · rename_i hn
      rcases List.mem_append.mp hc with hc | hc
      · exact ih (n / base) (Nat.div_lt_self (by omega) hlow) hc
      · rw [List.mem_singleton.mp hc]
        have hmod := Nat.mod_lt n (show 0 < base by omega)
        exact Or.inl (hdigit (n % base) (by omega))

namespace IpAddress

theorem isFieldText_dotted (octets : List Nat) : IsFieldText (dotted octets) := by
  apply IsFieldText.intercalate (by simp [IsFieldText])
  intro text htext
  obtain ⟨n,_,rfl⟩ := List.mem_map.mp htext
  rw [Nat.toString_eq_ofList_toDigits]
  exact isFieldText_toDigits (by omega) (by omega) n

theorem isFieldText_hexGroups (groups : List Nat) : IsFieldText (hexGroups groups) := by
  apply IsFieldText.intercalate (by simp [IsFieldText])
  intro text htext
  obtain ⟨n,_,rfl⟩ := List.mem_map.mp htext
  exact isFieldText_toDigits (by omega) (by omega) n

theorem isFieldText_text (address : IpAddress) : IsFieldText address.text := by
  cases address with
  | v4 octets => exact isFieldText_dotted _
  | v6 groups =>
    simp only [text]
    split
    · exact IsFieldText.append (by simp [IsFieldText]) (isFieldText_dotted _)
    · split
      · refine ((isFieldText_hexGroups _).append ?_).append (isFieldText_hexGroups _)
        simp [IsFieldText]
      · exact isFieldText_hexGroups _

end IpAddress

end RebasingProxy
