/-! # Texts as bytes

Addresses are read byte by byte, so a character outside ASCII counts once for each of its bytes. -/
namespace SigningPreview.Text

/-- The bytes of a text in UTF-8. -/
def utf8 (cs : List Char) : List UInt8 := cs.flatMap String.utf8EncodeChar

theorem utf8_append (cs ds : List Char) : utf8 (cs ++ ds) = utf8 cs ++ utf8 ds :=
  List.flatMap_append

end SigningPreview.Text
