import RequestScope.Json.Literal
import RequestScope.Text.Utf8

/-!
# Percent escapes

An octet of a path may be written as a percent sign and two hexadecimal digits. Decoding replaces
such escapes, except those of octets that are protected, and reads the octets as text.
-/

namespace RequestScope.Http

/-- Replaces the escapes of all octets that are not protected. -/
def decodeOctets (isProtected : UInt8 → Bool) : List UInt8 → List UInt8
  | [] => []
  | 0x25 :: high :: low :: rest =>
    match Json.hexNumber? [high, low] with
    | some n =>
      if isProtected (UInt8.ofNat n) then 0x25 :: decodeOctets isProtected (high :: low :: rest)
      else UInt8.ofNat n :: decodeOctets isProtected rest
    | none => 0x25 :: decodeOctets isProtected (high :: low :: rest)
  | b :: rest => b :: decodeOctets isProtected rest

def decodePercent (isProtected : UInt8 → Bool) (s : String) : String :=
  Text.Utf8.decodeLossy (decodeOctets isProtected (Text.Utf8.encode s))

/-- The octets whose escapes stay when a path is matched: the percent sign, the slash and the plus
sign. -/
def isRouteMark (b : UInt8) : Bool := b == 0x25 || b == 0x2f || b == 0x2b

end RequestScope.Http
