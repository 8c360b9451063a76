import RequestScope.Json.Skip

/-!
# Reading records of texts

A record has a name and fields that all hold texts. Its text is an object with the fields among its
members, or the list of their values in order. Members with other names are passed over. A fault of
the fields wins over a fault of the closing bracket, but the bracket is read all the same: a fault
without a place of its own is reported where that reading ends.
-/

namespace RequestScope.Json

/-- The name of a record in diagnostics and the names of its fields in texts. -/
structure RecordShape where
  name : String
  fields : List String
deriving Repr, DecidableEq

/-- How diagnostics call a record. -/
def RecordShape.wanted (shape : RecordShape) : String := "struct " ++ shape.name

/-- How diagnostics call a record of the right length. -/
def RecordShape.wantedLength (shape : RecordShape) : String :=
  shape.wanted ++ " with " ++ toString shape.fields.length
    ++ (if shape.fields.length = 1 then " element" else " elements")

/-- Why the reading of fields ended: a fault with a place, or a difference found when the cursor was
at some point. -/
inductive Stop
  | fault (f : Fault)
  | mismatch (reason : Mismatch) (c : Cursor)

namespace Cursor

/-- Reads what stands for a value where another kind of value was wanted. Scalars are read
completely, brackets are not entered. -/
def readFound (c : Cursor) (b : UInt8) : Except Fault (Found × Cursor) := do
  if b == 0x6e then return (.null, ← c.next.readWord nullTail)
  else if b == 0x74 then return (.boolean true, ← c.next.readWord trueTail)
  else if b == 0x66 then return (.boolean false, ← c.next.readWord falseTail)
  else if b == 0x22 then
    let (s, c) ← c.next.readString
    return (.text s, c)
  else if b == 0x5b then return (.sequence, c)
  else if b == 0x7b then return (.map, c)
  else if b == 0x2d || isDigit b then
    let (n, c) ← if b == 0x2d then c.next.readNumber true else c.readNumber false
    match n with
    | .int n => return (.integer n, c)
    | .double x => return (.double x, c)
  else throw (c.ahead .expectedValue)

def complain (c : Cursor) (b : UInt8) (wanted : String) : Fault :=
  match c.readFound b with
  | .ok (found, c) => ⟨.mismatch (.wrongType found wanted), c.position⟩
  | .error f => f

def readText (c : Cursor) : Except Fault (String × Cursor) :=
  let c := c.skipSpace
  match c.peek? with
  | none => .error (c.ahead .endOfValue)
  | some b => if b == 0x22 then c.next.readString else .error (c.complain b "a string")

end Cursor

/-- Lets a fault stop the reading of fields. -/
def stopAt (result : Except Fault α) : Except Stop α := result.mapError .fault

/-- Reads the values of fields from a list, of which `count` have been read. -/
def readTexts (wanted : String) : List String → Nat → Bool → List String → Cursor → Except Stop
    (List String × Cursor)
  | [], _, _, read, c => .ok (read.reverse, c)
  | _ :: fields, count, first, read, c => do
    match ← stopAt (c.nextItem first) with
    | (false, c) => throw (.mismatch (.wrongLength count wanted) c)
    | (true, c) =>
      let (s, c) ← stopAt c.readText
      readTexts wanted fields (count + 1) false (s :: read) c

/-- The fields of a record, those with values read so far. -/
abbrev Slots := List (String × Option String)

def Slots.find? (slots : Slots) (name : String) : Option (Option String) :=
  SortedMap.lookup name slots

def Slots.fill (slots : Slots) (name value : String) : Slots :=
  slots.map fun slot => if slot.1 = name then (slot.1, some value) else slot

/-- The values of all fields, or the first field without one. -/
def Slots.values : Slots → Except String (List String)
  | [] => .ok []
  | (name, none) :: _ => .error name
  | (_, some value) :: slots => return value :: (← values slots)

/-- Reads the members of an object into the fields of a record, in a text of at most `length`
octets. Each member takes an octet. -/
def readSlots (length : Nat) : Nat → Bool → Slots → Cursor → Except Stop (List String × Cursor)
  | 0, _, _, c => .error (.fault (c.ahead .endOfObject))
  | fuel + 1, first, slots, c => do
    match ← stopAt (c.nextMember first) with
    | (false, c) =>
      match slots.values with
      | .ok values => return (values, c)
      | .error name => throw (.mismatch (.missingField name) c)
    | (true, c) =>
      let (name, c) ← stopAt c.next.readString
      match slots.find? name with
      | some (some _) => throw (.mismatch (.duplicateField name) c)
      | some none =>
        let (s, c) ← stopAt (do (← c.colon).readText)
        readSlots length fuel false (slots.fill name s) c
      | none =>
        let c ← stopAt (do (← c.colon).skipValue length)
        readSlots length fuel false slots c

/-- Combines the fields with the reading of the closing bracket. -/
def closeRecord (fields : Except Stop (List String × Cursor))
    (close : Cursor → Except (Malformed × Cursor) Cursor) :
    Except Fault (List String × Cursor) :=
  match fields with
  | .ok (values, c) =>
    match close c with
    | .ok c => .ok (values, c)
    | .error (reason, c) => .error (c.ahead reason)
  | .error (.fault f) => .error f
  | .error (.mismatch reason c) =>
    match close c with
    | .ok c => .error ⟨.mismatch reason, c.position⟩
    | .error (_, c) => .error ⟨.mismatch reason, c.position⟩

def RecordShape.read (shape : RecordShape) (c : Cursor) : Except Fault (List String × Cursor) :=
  let length := c.rest.length
  let c := c.skipSpace
  match c.peek? with
  | none => .error (c.ahead .endOfValue)
  | some b =>
    if b == 0x5b then
      closeRecord (readTexts shape.wantedLength shape.fields 0 true [] c.next) Cursor.closeList
    else if b == 0x7b then
      closeRecord (readSlots length (length + 1) true (shape.fields.map (·, none)) c.next) Cursor.closeObject
    else .error (c.complain b shape.wanted)

/-- The values of the fields of the record that the octets spell. -/
def RecordShape.parse (shape : RecordShape) (bytes : List UInt8) : Except Fault (List String) := do
  let (values, c) ← shape.read (.start bytes)
  c.finished
  return values

end RequestScope.Json
