import RequestScope.Json.Numeral
import RequestScope.Json.Structure

/-!
# Reading values

The value that a text spells. Lists and objects may be nested up to a fixed depth; of two members
with the same name the later one counts.
-/

namespace RequestScope.Json

/-- Reads the items of a list up to the closing bracket, with a reader of one item. Each item takes
an octet. -/
def readItems (item : Cursor → Except Fault (α × Cursor)) : Nat → Bool → List α → Cursor →
    Except Fault (List α × Cursor)
  | 0, _, _, c => .error (c.ahead .endOfList)
  | fuel + 1, first, read, c => do
    match ← c.nextItem first with
    | (false, c) => return (read.reverse, c.next)
    | (true, c) =>
      let (value, c) ← item c
      readItems item fuel false (value :: read) c

/-- Reads the members of an object up to the closing brace, with a reader of one value. -/
def readMembers (value : Cursor → Except Fault (α × Cursor)) : Nat → Bool → Dictionary α → Cursor →
    Except Fault (Dictionary α × Cursor)
  | 0, _, _, c => .error (c.ahead .endOfObject)
  | fuel + 1, first, read, c => do
    match ← c.nextMember first with
    | (false, c) => return (read, c.next)
    | (true, c) =>
      let (name, c) ← c.next.readString
      let (value', c) ← value (← c.colon)
      readMembers value fuel false (read.insert name value') c

/-- Reads a value with at most `depth` brackets inside each other, in a text of at most `length`
octets. -/
def readValue (length : Nat) : Nat → Cursor → Except Fault (Json × Cursor)
  | depth, c => do
    let c := c.skipSpace
    match c.peek? with
    | none => throw (c.ahead .endOfValue)
    | some b =>
      if b == 0x6e then return (.null, ← c.next.readWord nullTail)
      else if b == 0x74 then return (.bool true, ← c.next.readWord trueTail)
      else if b == 0x66 then return (.bool false, ← c.next.readWord falseTail)
      else if b == 0x2d then
        let (n, c) ← c.next.readNumber true
        return (.number n, c)
      else if isDigit b then
        let (n, c) ← c.readNumber false
        return (.number n, c)
      else if b == 0x22 then
        let (s, c) ← c.next.readString
        return (.string s, c)
      else if b == 0x5b then
        match depth with
        | 0 => throw (c.ahead .nestedTooDeep)
        | depth + 1 =>
          let (items, c) ← readItems (readValue length depth) (length + 1) true [] c.next
          return (.array items, c)
      else if b == 0x7b then
        match depth with
        | 0 => throw (c.ahead .nestedTooDeep)
        | depth + 1 =>
          let (members, c) ← readMembers (readValue length depth) (length + 1) true .empty c.next
          return (.ofDictionary members, c)
      else throw (c.ahead .expectedValue)

/-- How many brackets may be open at once. -/
def maxDepth : Nat := 127

def parse (bytes : List UInt8) : Except Fault Json := do
  let (value, c) ← readValue bytes.length maxDepth (.start bytes)
  c.finished
  return value

end RequestScope.Json
