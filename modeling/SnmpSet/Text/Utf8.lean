/-!
# UTF-8

Text as octets and back. Decoding refuses overlong forms, surrogates and code
points past `10FFFF`.
-/

namespace SnmpSet.Text

/-- The UTF-8 octets of a text. -/
def utf8 (cs : List Char) : List UInt8 := cs.flatMap String.utf8EncodeChar

/-- The UTF-8 octets of a string. -/
def octetsOf (s : String) : List UInt8 := utf8 s.toList

/-- The text that octets encode, if they are valid UTF-8. -/
def ofUtf8? (octets : List UInt8) : Option (List Char) :=
  octets.toByteArray.utf8Decode?.map Array.toList

end SnmpSet.Text
