import RequestScope.Json.Fault
import RequestScope.Text.Utf8

/-!
# Reading strings and words

The inside of a string is read octet by octet by a machine that knows how far it is in an escape;
its octets are checked to be text only when the closing quote is reached. The words of the grammar
are read letter by letter.
-/

namespace RequestScope.Json

/-- How far the reader of a string is in an escape. A pair of escapes for one character leaves its
first half behind. -/
inductive StringState
  | plain
  | escape
  | hex (lead : Option Nat) (seen : List UInt8)
  | wantBackslash (lead : Nat)
  | wantUnicode (lead : Nat)
deriving Repr, DecidableEq

/-- What an octet does to the reader of a string. -/
inductive StringStep
  | go (state : StringState) (read : List UInt8)
  | close
  | refuse (reason : Malformed)

def hexValue? (b : UInt8) : Option Nat :=
  if isDigit b then some (digitValue b)
  else if 0x61 ≤ b && b ≤ 0x66 then some (b.toNat - 0x57)
  else if 0x41 ≤ b && b ≤ 0x46 then some (b.toNat - 0x37)
  else none

def hexNumber? (digits : List UInt8) : Option Nat :=
  digits.foldl (fun value b => do return (← value) * 16 + (← hexValue? b)) (some 0)

/-- The octet that a short escape stands for. -/
def shortEscape? (b : UInt8) : Option UInt8 :=
  if b == 0x22 || b == 0x5c || b == 0x2f then some b
  else if b == 0x62 then some 0x08
  else if b == 0x66 then some 0x0c
  else if b == 0x6e then some 0x0a
  else if b == 0x72 then some 0x0d
  else if b == 0x74 then some 0x09
  else none

/-- Puts the octets of a character in front of those read, latest first. -/
def pushChar (code : Nat) (read : List UInt8) : List UInt8 :=
  (String.utf8EncodeChar (Char.ofNat code)).reverse ++ read

/-- Whether a code is the first half of a pair. -/
def isLeading (code : Nat) : Bool := 0xd800 ≤ code && code ≤ 0xdbff

/-- Whether a code is the second half of a pair. -/
def isTrailing (code : Nat) : Bool := 0xdc00 ≤ code && code ≤ 0xdfff

/-- What the code of a complete escape does, behind the first half of a pair or not. -/
def stepCode (lead : Option Nat) (code : Nat) (read : List UInt8) : StringStep :=
  match lead with
  | none =>
    if isTrailing code then .refuse .loneSurrogate
    else if isLeading code then .go (.wantBackslash code) read
    else .go .plain (pushChar code read)
  | some lead =>
    if isTrailing code then .go .plain (pushChar ((lead - 0xd800) * 0x400 + (code - 0xdc00) + 0x10000) read)
    else .refuse .loneSurrogate

/-- What an octet does. `read` holds the octets of the text so far, latest first. -/
def StringState.step (state : StringState) (b : UInt8) (read : List UInt8) : StringStep :=
  match state with
  | .plain =>
    if b == 0x22 then .close
    else if b == 0x5c then .go .escape read
    else if b < 0x20 then .refuse .controlCharacter
    else .go .plain (b :: read)
  | .escape =>
    if b == 0x75 then .go (.hex none []) read
    else
      match shortEscape? b with
      | some c => .go .plain (c :: read)
      | none => .refuse .invalidEscape
  | .hex lead seen =>
    if seen.length < 3 then .go (.hex lead (b :: seen)) read
    else
      match hexNumber? (b :: seen).reverse with
      | some code => stepCode lead code read
      | none => .refuse .invalidEscape
  | .wantBackslash lead =>
    if b == 0x5c then .go (.wantUnicode lead) read else .refuse .unfinishedSurrogate
  | .wantUnicode lead =>
    if b == 0x75 then .go (.hex (some lead) []) read else .refuse .unfinishedSurrogate

/-- Reads the octets of a string from a place inside it up to the closing quote. -/
def readOctetsFrom : List UInt8 → Position → StringState → List UInt8 → Except Fault
    (List UInt8 × Cursor)
  | [], p, _, _ => .error ⟨.malformed .endOfString, p⟩
  | b :: rest, p, state, read =>
    match state.step b read with
    | .go state read => readOctetsFrom rest (p.after b) state read
    | .close => .ok (read.reverse, ⟨rest, p.after b⟩)
    | .refuse reason => .error ⟨.malformed reason, p.after b⟩

/-- Reads a string behind its opening quote. Octets that are no text are reported as far before the
end as they lie before the end of the text. -/
def Cursor.readString (c : Cursor) : Except Fault (String × Cursor) := do
  let (octets, after) ← readOctetsFrom c.rest c.position .plain []
  match Text.Utf8.decode octets with
  | .ok s => return (s, after)
  | .error valid =>
    let column := after.position.column - (octets.length - valid)
    throw ⟨.malformed .invalidCodePoint, ⟨after.position.line, column⟩⟩

def Cursor.readWord (c : Cursor) : List UInt8 → Except Fault Cursor
  | [] => .ok c
  | letter :: letters =>
    match c.peek? with
    | none => .error (c.here .endOfValue)
    | some b => if b == letter then c.next.readWord letters else .error (c.next.here .expectedIdent)

def nullTail : List UInt8 := [0x75, 0x6c, 0x6c]

def trueTail : List UInt8 := [0x72, 0x75, 0x65]

def falseTail : List UInt8 := [0x61, 0x6c, 0x73, 0x65]

end RequestScope.Json
