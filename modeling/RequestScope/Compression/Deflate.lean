import RequestScope.Compression.PrefixCode

/-!
# Deflated data

Data in blocks. A block holds octets as they are, or a row of symbols in a prefix code, fixed or
stated in front of the block. A symbol is an octet, the end of the block, or the length of a piece
that is repeated, which its distance follows. `inflate` gives back the octets up to the point where
the data end or cannot be read.
-/

namespace RequestScope.Compression

/-- The least length that each length symbol stands for, and the width of the number added to it. -/
def lengthRanges : List (Nat × Nat) :=
  [(3, 0), (4, 0), (5, 0), (6, 0), (7, 0), (8, 0), (9, 0), (10, 0), (11, 1), (13, 1), (15, 1),
   (17, 1), (19, 2), (23, 2), (27, 2), (31, 2), (35, 3), (43, 3), (51, 3), (59, 3), (67, 4), (83, 4),
   (99, 4), (115, 4), (131, 5), (163, 5), (195, 5), (227, 5), (258, 0)]

/-- The least distance that each distance symbol stands for, and the width of the number added to
it. -/
def distanceRanges : List (Nat × Nat) :=
  [(1, 0), (2, 0), (3, 0), (4, 0), (5, 1), (7, 1), (9, 2), (13, 2), (17, 3), (25, 3), (33, 4),
   (49, 4), (65, 5), (97, 5), (129, 6), (193, 6), (257, 7), (385, 7), (513, 8), (769, 8), (1025, 9),
   (1537, 9), (2049, 10), (3073, 10), (4097, 11), (6145, 11), (8193, 12), (12289, 12), (16385, 13),
   (24577, 13)]

/-- Reads the number added to what a symbol stands for. -/
def readRange (ranges : List (Nat × Nat)) (symbol : Nat) (bits : Bits) : Except Stop (Nat × Bits) :=
  match ranges[symbol]? with
  | none => .error .corrupt
  | some (least, width) => (readNumber width bits).map fun (n, bits) => (least + n, bits)

/-- The codes of a block: of octets and lengths, and of distances. -/
structure BlockCodes where
  literals : PrefixCode
  distances : PrefixCode

def BlockCodes.readPiece (codes : BlockCodes) (symbol : Nat) (bits : Bits) :
    Except Stop (Nat × Nat × Bits) := do
  let (length, bits) ← readRange lengthRanges symbol bits
  let (symbol, bits) ← codes.distances.read bits
  let (distance, bits) ← readRange distanceRanges symbol bits
  return (length, distance, bits)

/-- Repeats octets from a distance. What would stand before the first octet is zero. -/
def repeatPiece (distance : Nat) : Nat → Array UInt8 → Array UInt8
  | 0, out => out
  | length + 1, out =>
    let octet := if distance ≤ out.size then (out[out.size - distance]?).getD 0 else 0
    repeatPiece distance length (out.push octet)

/-- Reads the symbols of a block. The first argument bounds their number. -/
def BlockCodes.inflate (codes : BlockCodes) : Nat → Bits → Array UInt8 →
    Array UInt8 × Except Stop Bits
  | 0, _, out => (out, .error .starved)
  | fuel + 1, bits, out =>
    match codes.literals.read bits with
    | .error stop => (out, .error stop)
    | .ok (symbol, bits) =>
      if symbol < 256 then codes.inflate fuel bits (out.push (UInt8.ofNat symbol))
      else if symbol = 256 then (out, .ok bits)
      else
        match codes.readPiece (symbol - 257) bits with
        | .error stop => (out, .error stop)
        | .ok (length, distance, bits) => codes.inflate fuel bits (repeatPiece distance length out)

/-- The codes that need not be stated. -/
def BlockCodes.fixed : BlockCodes where
  literals := .ofLengths (List.replicate 144 8 ++ List.replicate 112 9 ++ List.replicate 24 7
    ++ List.replicate 8 8)
  distances := .ofLengths (List.replicate 32 5)

/-- The order in which the lengths of the words for lengths are stated. -/
def lengthOrder : List Nat := [16, 17, 18, 0, 8, 7, 9, 6, 10, 5, 11, 4, 12, 3, 13, 2, 14, 1, 15]

def readTriples : Nat → Bits → Except Stop (List Nat × Bits)
  | 0, bits => .ok ([], bits)
  | count + 1, bits => do
    let (n, bits) ← readNumber 3 bits
    let (rest, bits) ← readTriples count bits
    return (n :: rest, bits)

/-- Reads what a symbol of the code for lengths adds to the lengths read so far, the latest of which
stands first. -/
def readLengths (symbol : Nat) (lengths : List Nat) (bits : Bits) :
    Except Stop (List Nat × Bits) := do
  if symbol < 16 then return (symbol :: lengths, bits)
  else if symbol = 16 then
    let some last := lengths.head? | throw .corrupt
    let (n, bits) ← readNumber 2 bits
    return (List.replicate (3 + n) last ++ lengths, bits)
  else if symbol = 17 then
    let (n, bits) ← readNumber 3 bits
    return (List.replicate (3 + n) 0 ++ lengths, bits)
  else
    let (n, bits) ← readNumber 7 bits
    return (List.replicate (11 + n) 0 ++ lengths, bits)

/-- Reads the lengths of the words of both codes of a block until there are as many as wanted. The
latest stands first. -/
def readAllLengths (code : PrefixCode) (wanted : Nat) : Nat → List Nat → Bits →
    Except Stop (List Nat × Bits)
  | 0, _, _ => .error .corrupt
  | fuel + 1, lengths, bits =>
    if lengths.length = wanted then .ok (lengths, bits)
    else if wanted < lengths.length then .error .corrupt
    else do
      let (symbol, bits) ← code.read bits
      let (lengths, bits) ← readLengths symbol lengths bits
      readAllLengths code wanted fuel lengths bits

def BlockCodes.read (bits : Bits) : Except Stop (BlockCodes × Bits) := do
  let (n, bits) ← readNumber 5 bits
  let (m, bits) ← readNumber 5 bits
  let (k, bits) ← readNumber 4 bits
  let literals := n + 257
  let distances := m + 1
  if 286 < literals || 30 < distances then throw .corrupt
  let (triples, bits) ← readTriples (k + 4) bits
  let stated := (List.range 19).map fun symbol => ((lengthOrder.zip triples).lookup symbol).getD 0
  if !PrefixCode.areComplete stated then throw .corrupt
  let wanted := literals + distances
  let (lengths, bits) ← readAllLengths (.ofLengths stated) wanted (wanted + 1) [] bits
  let lengths := lengths.reverse
  return (⟨← PrefixCode.ofLengths? (lengths.take literals),
    ← PrefixCode.ofLengths? (lengths.drop literals)⟩, bits)

/-- Reads a block of octets as they are. Their number stands in front of them, twice, the second time
with all bits changed. -/
def copyStored (bits : Bits) (out : Array UInt8) : Array UInt8 × Except Stop Bits :=
  match bits.align.number? 16 with
  | none => (out, .error .starved)
  | some (length, bits) =>
    match bits.number? 16 with
    | none => (out, .error .starved)
    | some (check, bits) =>
      if length + check ≠ 0xffff then (out, .error .corrupt)
      else
        let octets := bits.rest.take length
        let out := out ++ octets.toArray
        if octets.length < length then (out, .error .starved)
        else (out, .ok ⟨[], bits.rest.drop length⟩)

def inflateBlock (kind : Nat) (bits : Bits) (out : Array UInt8) : Array UInt8 × Except Stop Bits :=
  match kind with
  | 0 => copyStored bits out
  | 1 => BlockCodes.fixed.inflate (bits.size + 1) bits out
  | 2 =>
    match BlockCodes.read bits with
    | .error stop => (out, .error stop)
    | .ok (codes, bits) => codes.inflate (bits.size + 1) bits out
  | _ => (out, .error .corrupt)

/-- Reads blocks up to the last one. The first argument bounds their number. -/
def inflateBlocks : Nat → Bits → Array UInt8 → Array UInt8 × Except Stop Bits
  | 0, _, out => (out, .error .starved)
  | fuel + 1, bits, out =>
    match bits.number? 3 with
    | none => (out, .error .starved)
    | some (head, bits) =>
      match inflateBlock (head / 2) bits out with
      | (out, .error stop) => (out, .error stop)
      | (out, .ok bits) => if head % 2 = 1 then (out, .ok bits) else inflateBlocks fuel bits out

/-- The octets of deflated data, and what stands behind the data. -/
def inflate (octets : List UInt8) : List UInt8 × Except Stop (List UInt8) :=
  let bits : Bits := ⟨[], octets⟩
  let (out, result) := inflateBlocks (bits.size + 1) bits #[]
  (out.toList, result.map (·.rest))

end RequestScope.Compression
