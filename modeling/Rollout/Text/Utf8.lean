/-!
# UTF-8

Texts as the bytes of their UTF-8 form, a byte being a number below 256.
-/

namespace Rollout.Text

def utf8 (c : Char) : List Nat := (String.utf8EncodeChar c).map UInt8.toNat

/-- The text that bytes stand for. -/
def ofUtf8? (bytes : List Nat) : Option String := String.fromUTF8? (ByteArray.mk (bytes.map UInt8.ofNat).toArray)

end Rollout.Text
