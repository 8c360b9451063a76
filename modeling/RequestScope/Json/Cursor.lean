/-!
# Reading positions

A cursor is the rest of a text of octets together with the line and the column of the place reached.
A diagnostic names either that place or the one behind the next octet, which a reader has looked at
and not taken.
-/

namespace RequestScope.Json

/-- A place in a text: the line counts from one, the column counts the octets since the last line
break. -/
structure Position where
  line : Nat
  column : Nat
deriving Repr, DecidableEq, Inhabited

/-- The place behind one more octet. -/
def Position.after (p : Position) (b : UInt8) : Position :=
  if b = 0x0a then ⟨p.line + 1, 0⟩ else ⟨p.line, p.column + 1⟩

/-- What is still to be read, and where it begins. -/
structure Cursor where
  rest : List UInt8
  position : Position
deriving Repr, DecidableEq, Inhabited

namespace Cursor

def start (bytes : List UInt8) : Cursor := ⟨bytes, ⟨1, 0⟩⟩

def peek? (c : Cursor) : Option UInt8 := c.rest.head?

/-- The cursor behind the next octet; at the end it stays. -/
def next (c : Cursor) : Cursor :=
  match c.rest with
  | [] => c
  | b :: rest => ⟨rest, c.position.after b⟩

/-- The place behind the next octet, or the end. -/
def peeked (c : Cursor) : Position := c.next.position

def skipWhileFrom (accept : UInt8 → Bool) : List UInt8 → Position → Cursor
  | [], p => ⟨[], p⟩
  | b :: rest, p => if accept b then skipWhileFrom accept rest (p.after b) else ⟨b :: rest, p⟩

def skipWhile (accept : UInt8 → Bool) (c : Cursor) : Cursor :=
  skipWhileFrom accept c.rest c.position

/-- White space between the parts of a text. -/
def isSpace (b : UInt8) : Bool := b == 0x20 || b == 0x09 || b == 0x0a || b == 0x0d

def skipSpace (c : Cursor) : Cursor := c.skipWhile isSpace

/-- Passes everything. -/
def finish (c : Cursor) : Cursor := c.skipWhile fun _ => true

end Cursor

def isDigit (b : UInt8) : Bool := 0x30 ≤ b && b ≤ 0x39

def digitValue (b : UInt8) : Nat := b.toNat - 0x30

end RequestScope.Json
