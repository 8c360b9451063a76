import RequestScope.Compression.Bits
import RequestScope.Compression.Fault

/-!
# Stored Brotli data

Data in the format of Brotli are a window size and a row of parts. A part is empty, or is passed
over, or holds octets as they are, or holds symbols in prefix codes. This is a reader of stored data
alone: it knows the parts without symbols, and gives up at a part with symbols as at one that means
nothing. Data that end too soon are taken as far as they go.
-/

namespace RequestScope.Compression.Brotli

/-- Whether a part can be read, and how it goes on. -/
inductive Part
  /-- The data end within the part, behind these octets. -/
  | starved (octets : List UInt8)
  | corrupt
  | last (bits : Bits)
  /-- The part holds octets, and others follow. -/
  | more (octets : List UInt8) (bits : Bits)

/-- Passes over the size of the window. Nothing is found where the size means nothing. -/
def dropWindow (bits : Bits) : Option (Option Bits) := do
  let (long, bits) ← bits.next?
  if !long then return some bits
  let (n, bits) ← bits.number? 3
  if n ≠ 0 then return some bits
  let (m, bits) ← bits.number? 3
  return if m = 1 then none else some bits

/-- The octets behind a whole octet, which have the given number. -/
def takeOctets (count : Nat) (bits : Bits) (isShown : Bool) : Part :=
  let octets := bits.rest.take count
  let shown := if isShown then octets else []
  if !bits.isPadded then .corrupt
  else if octets.length < count then .starved shown
  else .more shown ⟨[], bits.rest.drop count⟩

/-- A number of octets as it stands in front of a part, in pieces of the given width. The last of
several pieces is not zero where it has to be there. -/
def readCount (pieces width leastPieces : Nat) (bits : Bits) : Option (Option Nat × Bits) := do
  let (n, bits) ← bits.number? (pieces * width)
  let isNeeded := pieces ≤ leastPieces || Nat.pow 2 ((pieces - 1) * width) ≤ n
  return (if isNeeded then some (n + 1) else none, bits)

def readSkipped (bits : Bits) : Part :=
  match bits.number? 3 with
  | none => .starved []
  | some (head, bits) =>
    if head % 2 = 1 then .corrupt
    else if head / 2 = 0 then takeOctets 0 bits false
    else
      match readCount (head / 2) 8 1 bits with
      | none => .starved []
      | some (none, _) => .corrupt
      | some (some count, bits) => takeOctets count bits false

def readFilled (isLast : Bool) (pieces : Nat) (bits : Bits) : Part :=
  match readCount pieces 4 4 bits with
  | none => .starved []
  | some (none, _) => .corrupt
  | some (some count, bits) =>
    if isLast then .corrupt
    else
      match bits.next? with
      | none => .starved []
      | some (false, _) => .corrupt
      | some (true, bits) => takeOctets count bits true

/-- Reads a part behind the bit that says whether it is the last one, and empty. -/
def readBody (isLast : Bool) (bits : Bits) : Part :=
  match bits.number? 2 with
  | none => .starved []
  | some (3, bits) => readSkipped bits
  | some (n, bits) => readFilled isLast (n + 4) bits

def readPart (bits : Bits) : Part :=
  match bits.next? with
  | none => .starved []
  | some (false, bits) => readBody false bits
  | some (true, bits) =>
    match bits.next? with
    | none => .starved []
    | some (true, bits) => if bits.isPadded then .last bits else .corrupt
    | some (false, bits) => readBody true bits

/-- What the reader says when it gives up. -/
def fault : Fault := .foreign (customText "InvalidData" "Invalid Data")

/-- Reads parts up to the last one. The first argument bounds their number. -/
def unpackParts : Nat → Bits → List UInt8 → Except Fault Unpacked
  | 0, _, out => .ok ⟨out, none⟩
  | fuel + 1, bits, out =>
    match readPart bits with
    | .starved octets => .ok ⟨out ++ octets, none⟩
    | .corrupt => .error fault
    | .last bits => if bits.rest.isEmpty then .ok ⟨out, none⟩ else .error .excess
    | .more octets bits => unpackParts fuel bits (out ++ octets)

def unpackStored (octets : List UInt8) : Except Fault Unpacked :=
  match dropWindow ⟨[], octets⟩ with
  | none => .ok ⟨[], none⟩
  | some none => .error fault
  | some (some bits) => unpackParts (bits.size + 1) bits []

end RequestScope.Compression.Brotli
