import RequestScope.Compression.Checksum
import RequestScope.Compression.Deflate
import RequestScope.Compression.Fault

/-!
# Gzip data

Deflated data between a header and a trailer. The header may carry an extra field, the name of a
file, a comment and a checksum of its own; the trailer holds the checksum and the number of the
octets. Data that end too soon lack their checksum.
-/

namespace RequestScope.Compression.Gzip

/-- What stands behind a part of a header, or nothing if the data end within it. -/
abbrev Part := Except Fault (Option (List UInt8))

def maxFieldLength : Nat := 65535

def dropExactly (count : Nat) (octets : List UInt8) : Part :=
  .ok (if octets.length < count then none else some (octets.drop count))

/-- Passes over the octets that a number of two octets in front of them counts. -/
def dropCounted (octets : List UInt8) : Part :=
  if octets.length < 2 then .ok none
  else dropExactly (littleEndian (octets.take 2)) (octets.drop 2)

/-- Passes over a text and the zero behind it. -/
def dropText (octets : List UInt8) : Part :=
  if maxFieldLength < (octets.takeWhile (· != 0)).length then .error .gzipField
  else
    match octets.dropWhile (· != 0) with
    | [] => .ok none
    | _ :: rest => .ok (some rest)

def dropChecksum (whole octets : List UInt8) : Part :=
  if octets.length < 2 then .ok none
  else
    let header := whole.take (whole.length - octets.length)
    if littleEndian (octets.take 2) = (crc32 header).toNat % 0x10000 then .ok (some (octets.drop 2))
    else .error .gzipChecksum

/-- Goes on with a part if the header has it and has not ended before. -/
def followedBy (before : Part) (isThere : Bool) (part : List UInt8 → Part) : Part :=
  match before with
  | .ok (some octets) => if isThere then part octets else before
  | before => before

/-- Passes over a header: ten octets that begin with a mark, and the parts that the flags among them
announce. -/
def dropHeader (octets : List UInt8) : Part :=
  match octets with
  | 0x1f :: 0x8b :: 8 :: flags :: _ :: _ :: _ :: _ :: _ :: _ :: rest =>
    let has (bit : Nat) : Bool := flags.toNat.testBit bit
    if has 5 || has 6 || has 7 then .error .gzipHeader
    else
      let extra := followedBy (.ok (some rest)) (has 2) dropCounted
      let name := followedBy extra (has 3) dropText
      let comment := followedBy name (has 4) dropText
      followedBy comment (has 1) (dropChecksum octets)
  | octets => if octets.length < 10 then .ok none else .error .gzipHeader

def matchesTrailer (octets trailer : List UInt8) : Bool :=
  littleEndian (trailer.take 4) == (crc32 octets).toNat
    && littleEndian (trailer.drop 4) == octets.length % 0x100000000

def unpack (octets : List UInt8) : Except Fault Unpacked := do
  let some data ← dropHeader octets | return ⟨[], some .gzipChecksum⟩
  match inflate data with
  | (_, .error .corrupt) => throw .deflate
  | (out, .error .starved) => return ⟨out, some .gzipChecksum⟩
  | (out, .ok trailer) =>
    if 8 < trailer.length then throw .excess
    else if trailer.length = 8 ∧ matchesTrailer out trailer then return ⟨out, none⟩
    else return ⟨out, some .gzipChecksum⟩

end RequestScope.Compression.Gzip
