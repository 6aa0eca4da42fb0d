/-! # Bytes

Bodies, header values and bases are sequences of bytes. A text becomes bytes by
its UTF-8 encoding, one character after the other.
-/
namespace RebasingProxy

abbrev Bytes := List UInt8

namespace Bytes

def lineFeed : UInt8 := 10

def ofText (text : String) : Bytes := text.toList.flatMap String.utf8EncodeChar

def toText? (bytes : Bytes) : Option String := String.fromUTF8? ⟨bytes.toArray⟩

@[simp] theorem ofText_empty : ofText "" = [] := rfl

theorem ofText_append (s t : String) : ofText (s ++ t) = ofText s ++ ofText t := by
  simp [ofText]

theorem toText?_ofText (text : String) : (ofText text).toText? = some text := by
  have hbytes : (⟨(ofText text).toArray⟩ : ByteArray) = text.toByteArray := by
    rw [← String.utf8Encode_toList]
    exact ByteArray.ext List.data_toByteArray.symm
  rw [toText?, hbytes, String.fromUTF8?, dif_pos text.isValidUTF8]
  rfl

theorem ofText_eq_nil_iff {text : String} : ofText text = [] ↔ text = "" := by
  rw [ofText, List.flatMap_eq_nil_iff]
  constructor
  · intro h
    apply String.toList_inj.mp
    apply List.eq_nil_iff_forall_not_mem.mpr
    intro c hc
    exact String.utf8EncodeChar_ne_nil (h c hc)
  · rintro rfl
    nofun

end Bytes

end RebasingProxy
