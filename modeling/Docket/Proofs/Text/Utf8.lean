import Docket.Text.Utf8

/-!
# Text from its bytes

Text is read from its bytes as it was, so that texts with the same bytes are
the same.
-/

namespace Docket.Text

/-- Text is read from its bytes as it was. -/
@[simp] theorem ofBytes?_bytesOf (cs : List Char) :
    ofBytes? (bytesOf cs) = some (String.ofList cs) := by
  have hbytes : (⟨(bytesOf cs).toArray⟩ : ByteArray) = cs.utf8Encode := by
    apply ByteArray.ext
    simp [bytesOf, List.utf8Encode]
  have hvalid : cs.utf8Encode.IsValidUTF8 := ByteArray.isValidUTF8_utf8Encode
  rw [ofBytes?, hbytes, String.fromUTF8?, dif_pos hvalid]
  rfl

theorem ofBytes?_bytesOf_toList (text : String) : ofBytes? (bytesOf text.toList) = some text := by
  rw [ofBytes?_bytesOf, String.ofList_toList]

/-- Texts with the same bytes are the same. -/
theorem bytesOf_inj {cs ds : List Char} : bytesOf cs = bytesOf ds ↔ cs = ds := by
  constructor
  · intro h
    have hread := congrArg ofBytes? h
    rw [ofBytes?_bytesOf, ofBytes?_bytesOf] at hread
    exact String.ofList_injective (Option.some.inj hread)
  · intro h
    rw [h]

end Docket.Text
