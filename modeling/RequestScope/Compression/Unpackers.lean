import RequestScope.Compression.Brotli
import RequestScope.Compression.Zstandard

/-!
# Readers that are not part of the service

Two of the formats in which bodies may come are read by libraries, about which the service knows nothing
but that octets come out or a fault does. Whatever is said of bodies is said for all such readers. A
service that is run without libraries has readers of stored data.
-/

namespace RequestScope.Compression

/-- The readers of the formats of Brotli and of Zstandard. -/
structure Unpackers where
  brotli : List UInt8 → Except Fault Unpacked
  zstandard : List UInt8 → Except Fault Unpacked

/-- The readers of data that were stored in these formats without being compressed. -/
def Unpackers.stored : Unpackers := ⟨Brotli.unpackStored, Zstandard.unpackStored⟩

end RequestScope.Compression
