/-!
# Text as bytes

Text is kept and sent as UTF-8.
-/

namespace Docket.Text

/-- The UTF-8 bytes of text. -/
def bytesOf (cs : List Char) : List UInt8 :=
  cs.flatMap String.utf8EncodeChar

/-- The text with these UTF-8 bytes. -/
def ofBytes? (bytes : List UInt8) : Option String :=
  String.fromUTF8? ⟨bytes.toArray⟩

end Docket.Text
