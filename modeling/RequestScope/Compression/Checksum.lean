/-!
# Checksums

The cyclic redundancy check of 32 bits, by which gzip data are checked, and the pair of sums modulo
65521 by which zlib data are.
-/

namespace RequestScope.Compression

/-- Divides the remainder by the polynomial once more. -/
def crcShift (c : UInt32) : UInt32 := if c &&& 1 == 1 then (c >>> 1) ^^^ 0xedb88320 else c >>> 1

/-- Takes an octet into the remainder. -/
def crcStep (c : UInt32) (b : UInt8) : UInt32 := Nat.repeat crcShift 8 (c ^^^ b.toUInt32)

def crc32 (octets : List UInt8) : UInt32 := octets.foldl crcStep 0xffffffff ^^^ 0xffffffff

def adlerModulus : Nat := 65521

/-- Takes an octet into both sums: the sum of the octets, and the sum of those sums. -/
def adlerStep (s : Nat × Nat) (b : UInt8) : Nat × Nat :=
  let first := (s.1 + b.toNat) % adlerModulus
  (first, (s.2 + first) % adlerModulus)

/-- The pair of sums of octets as one number. -/
def adler32 (octets : List UInt8) : Nat :=
  let (first, second) := octets.foldl adlerStep (1, 0)
  second * 0x10000 + first

end RequestScope.Compression
