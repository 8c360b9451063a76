import RequestScope.Compression.Checksum
import RequestScope.Compression.Deflate
import RequestScope.Compression.Fault

/-!
# Zlib data

Deflated data between two octets in front and a checksum behind. Data that end too soon are taken as
far as they go.
-/

namespace RequestScope.Compression.Zlib

/-- Whether two octets are the header of data without a dictionary: the method is deflation, the
window is no larger than the format knows, and both together are a multiple of 31. -/
def isHeader (first second : UInt8) : Bool :=
  first.toNat % 16 == 8 && first.toNat / 16 ≤ 7 && !second.toNat.testBit 5
    && (first.toNat * 256 + second.toNat) % 31 == 0

def unpack (octets : List UInt8) : Except Fault Unpacked :=
  match octets with
  | first :: second :: data =>
    if !isHeader first second then .error .deflate
    else
      match inflate data with
      | (_, .error .corrupt) => .error .deflate
      | (out, .error .starved) => .ok ⟨out, none⟩
      | (out, .ok trailer) =>
        if trailer.length < 4 then .ok ⟨out, none⟩
        else if littleEndian (trailer.take 4).reverse ≠ adler32 out then .error .deflate
        else if 4 < trailer.length then .error .excess
        else .ok ⟨out, none⟩
  | _ => .ok ⟨[], none⟩

end RequestScope.Compression.Zlib
