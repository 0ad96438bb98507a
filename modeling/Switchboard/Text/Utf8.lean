/-!
# Bytes of a text

A text is sent and kept as its UTF-8 bytes. `text?_bytes`: reading them gives the text back.
-/

namespace Switchboard

abbrev Bytes := List UInt8

namespace Text

def bytes (s : String) : Bytes := s.toList.flatMap String.utf8EncodeChar

def text? (bs : Bytes) : Option String := String.fromUTF8? bs.toByteArray

theorem toByteArray_bytes (s : String) : (bytes s).toByteArray = s.toByteArray := by
  have h : (String.ofList s.toList).toByteArray = s.toList.utf8Encode := String.toByteArray_ofList
  rw [String.ofList_toList] at h
  exact h.symm

@[simp]
theorem text?_bytes (s : String) : text? (bytes s) = some s := by
  unfold text? String.fromUTF8?
  rw [toByteArray_bytes, dif_pos s.isValidUTF8]
  rfl

end Text

end Switchboard
