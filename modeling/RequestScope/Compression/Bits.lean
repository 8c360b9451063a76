/-!
# Octets read bit by bit

Compressed data are read from the least significant bit of each octet on. A number stands with its
least significant bit first. Some parts begin at the next whole octet; the bits before it are passed
over.
-/

namespace RequestScope.Compression

/-- Octets of which the first has been read in part. -/
structure Bits where
  ahead : List Bool := []
  rest : List UInt8
deriving Repr, DecidableEq

/-- The bits of an octet in the order of reading. -/
def octetBits (b : UInt8) : List Bool := (List.range 8).map b.toNat.testBit

namespace Bits

def next? (s : Bits) : Option (Bool × Bits) :=
  match s.ahead, s.rest with
  | bit :: ahead, rest => some (bit, ⟨ahead, rest⟩)
  | [], b :: rest => (octetBits b).head?.map fun bit => (bit, ⟨(octetBits b).tail, rest⟩)
  | [], [] => none

def number? : Nat → Bits → Option (Nat × Bits)
  | 0, s => some (0, s)
  | width + 1, s => do
    let (bit, s) ← s.next?
    let (n, s) ← number? width s
    return (bit.toNat + 2 * n, s)

/-- The bits from the next whole octet on. -/
def align (s : Bits) : Bits := ⟨[], s.rest⟩

/-- Whether only zeros stand before the next whole octet. -/
def isPadded (s : Bits) : Bool := s.ahead.all (!·)

def size (s : Bits) : Nat := s.ahead.length + 8 * s.rest.length

end Bits

/-- The number that octets spell, the least significant one first. -/
def littleEndian : List UInt8 → Nat
  | [] => 0
  | b :: rest => b.toNat + 256 * littleEndian rest

end RequestScope.Compression
