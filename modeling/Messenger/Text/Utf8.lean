/-!
The bytes of a text in UTF-8, and the text of given bytes where they are well formed. Bytes are
read and taken apart as a list, and digested when they are packed into an array.
-/

namespace Messenger.Text

abbrev Bytes := List UInt8

def packed (bytes : Bytes) : ByteArray :=
  ⟨bytes.toArray⟩

def utf8 (text : String) : Bytes :=
  text.toUTF8.data.toList

def ofUtf8? (bytes : Bytes) : Option String :=
  String.fromUTF8? (packed bytes)

@[simp] theorem ofUtf8?_utf8 (text : String) : ofUtf8? (utf8 text) = some text := by
  simp only [ofUtf8?, packed, utf8, String.toUTF8_eq_toByteArray, Array.toArray_toList,
    String.fromUTF8?, dif_pos text.isValidUTF8]
  rfl

theorem utf8_of_ofUtf8? {bytes : Bytes} {text : String} (h : ofUtf8? bytes = some text) :
    utf8 text = bytes := by
  unfold ofUtf8? String.fromUTF8? at h
  split at h
  · cases h
    simp [packed, utf8, String.fromUTF8]
  · cases h

theorem utf8_injective {first second : String} (h : utf8 first = utf8 second) :
    first = second := by
  have hfirst := ofUtf8?_utf8 first
  rw [h, ofUtf8?_utf8] at hfirst
  exact (Option.some.inj hfirst).symm

end Messenger.Text
