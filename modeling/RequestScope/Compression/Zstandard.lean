import RequestScope.Compression.Bits
import RequestScope.Compression.Fault

/-!
# Stored Zstandard data

Data in the format of Zstandard are frames behind one another, and others to be passed over. A frame
holds blocks of octets as they are, of one octet repeated, or of symbols. This is a reader of stored
data alone: it knows the blocks without symbols, and gives up at a block with symbols as at one that
means nothing. It passes over checksums, and takes data that end too soon as far as they go.
-/

namespace RequestScope.Compression.Zstandard

def frameMark : List UInt8 := [0x28, 0xb5, 0x2f, 0xfd]

/-- Whether octets begin like a frame, as far as they go. -/
def beginsFrame (octets : List UInt8) : Bool := octets.take 4 == frameMark.take octets.length

/-- Whether octets begin like a frame to be passed over, as far as they go. -/
def beginsSkipped (octets : List UInt8) : Bool :=
  match octets.take 4 with
  | [] => true
  | first :: rest => first.toNat / 16 == 5 && rest == ([0x2a, 0x4d, 0x18] : List UInt8).take rest.length

def maxBlockLength : Nat := 0x20000

/-- The number of octets of a frame's header behind its first one: a window size, unless the frame is
one segment, a number that names a dictionary, and the number of octets in the frame. -/
def headerLength (descriptor : Nat) : Nat :=
  let isSegment := descriptor.testBit 5
  let window := if isSegment then 0 else 1
  let dictionary := match descriptor % 4 with
    | 0 => 0
    | 1 => 1
    | 2 => 2
    | _ => 4
  let size := match descriptor / 64 with
    | 0 => if isSegment then 1 else 0
    | 1 => 2
    | 2 => 4
    | _ => 8
  window + dictionary + size

/-- What a block gives: its octets, whether it was the last one, and what follows. -/
inductive Block
  | starved (octets : List UInt8)
  | corrupt
  | whole (octets : List UInt8) (isLast : Bool) (rest : List UInt8)

def readBlock (octets : List UInt8) : Block :=
  if octets.length < 3 then .starved []
  else
    let head := littleEndian (octets.take 3)
    let rest := octets.drop 3
    let length := head / 8
    let isLast := head % 2 = 1
    if maxBlockLength < length then .corrupt
    else
      match head / 2 % 4 with
      | 0 =>
        if rest.length < length then .starved rest
        else .whole (rest.take length) isLast (rest.drop length)
      | 1 =>
        match rest with
        | [] => .starved []
        | b :: rest => .whole (List.replicate length b) isLast rest
      | _ => .corrupt

/-- What the blocks of a frame give: octets, and what follows the last block. -/
structure Body where
  octets : List UInt8
  rest : Option (List UInt8)

/-- What the reader says when a block or the header of a frame means nothing. -/
def fault : Fault := .foreign (customText "Other" "Data corruption detected")

/-- What the reader says when there is no frame. -/
def headerFault : Fault := .foreign (customText "Other" "Unknown frame descriptor")

/-- Reads the blocks of a frame. The first argument bounds their number. -/
def readBlocks : Nat → List UInt8 → List UInt8 → Except Fault Body
  | 0, _, out => .ok ⟨out, none⟩
  | fuel + 1, octets, out =>
    match readBlock octets with
    | .starved octets => .ok ⟨out ++ octets, none⟩
    | .corrupt => .error fault
    | .whole octets true rest => .ok ⟨out ++ octets, some rest⟩
    | .whole octets false rest => readBlocks fuel rest (out ++ octets)

def readFrame (octets : List UInt8) : Except Fault Body :=
  match octets with
  | [] => .ok ⟨[], none⟩
  | first :: rest =>
    let descriptor := first.toNat
    let length := headerLength descriptor
    if descriptor.testBit 3 then .error fault
    else if rest.length < length then .ok ⟨[], none⟩
    else do
      let body ← readBlocks (octets.length + 1) (rest.drop length) []
      let tail := if descriptor.testBit 2 then 4 else 0
      return ⟨body.octets, body.rest.bind fun rest =>
        if rest.length < tail then none else some (rest.drop tail)⟩

/-- Reads a frame that is passed over behind its mark. -/
def skipFrame (octets : List UInt8) : Body :=
  let rest := octets.drop 4
  let length := littleEndian (octets.take 4)
  ⟨[], if octets.length < 4 ∨ rest.length < length then none else some (rest.drop length)⟩

/-- Reads frames. The first argument bounds their number. -/
def unpackFrames : Nat → List UInt8 → List UInt8 → Except Fault Unpacked
  | 0, _, out => .ok ⟨out, none⟩
  | fuel + 1, octets, out =>
    if octets.isEmpty then .ok ⟨out, none⟩
    else if !beginsFrame octets && !beginsSkipped octets then .error headerFault
    else if octets.length < 4 then .ok ⟨out, none⟩
    else do
      let body ← if beginsFrame octets then readFrame (octets.drop 4) else .ok (skipFrame (octets.drop 4))
      match body.rest with
      | none => return ⟨out ++ body.octets, none⟩
      | some rest => unpackFrames fuel rest (out ++ body.octets)

def unpackStored (octets : List UInt8) : Except Fault Unpacked :=
  unpackFrames (octets.length + 1) octets []

end RequestScope.Compression.Zstandard
