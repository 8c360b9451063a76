import RequestScope.Compression.Bits

/-!
# Prefix codes

A prefix code gives symbols words of bits, no word the beginning of another. A canonical code is
settled by the lengths of its words: shorter words come first, and words of one length stand in the
order of their symbols. A length of zero means that a symbol has no word.
-/

namespace RequestScope.Compression

/-- Why the reading of compressed data stops before its end: there are no more octets, or those that
there are mean nothing. -/
inductive Stop
  | starved
  | corrupt
deriving Repr, DecidableEq

def readNumber (width : Nat) (s : Bits) : Except Stop (Nat × Bits) :=
  match s.number? width with
  | some result => .ok result
  | none => .error .starved

/-- A code as the tree of its words. -/
inductive PrefixCode
  | unused
  | symbol (s : Nat)
  | branch (zero one : PrefixCode)
deriving Repr

namespace PrefixCode

def insert (s : Nat) : List Bool → PrefixCode → PrefixCode
  | [], _ => .symbol s
  | false :: word, .branch zero one => .branch (insert s word zero) one
  | true :: word, .branch zero one => .branch zero (insert s word one)
  | false :: word, _ => .branch (insert s word .unused) .unused
  | true :: word, _ => .branch .unused (insert s word .unused)

/-- The word of the given length that spells a number, the most significant bit first. -/
def word (length n : Nat) : List Bool := ((List.range length).map n.testBit).reverse

def symbolsOf (lengths : List Nat) (length : Nat) : List Nat :=
  (lengths.zipIdx.filter fun entry => entry.1 == length).map (·.2)

/-- Gives words of one length to symbols, beginning with the given number. -/
def insertRow (length : Nat) : List Nat → Nat → PrefixCode → PrefixCode
  | [], _, code => code
  | s :: symbols, n, code => insertRow length symbols (n + 1) (code.insert s (word length n))

/-- Gives all words of at least a length, for a number of lengths. The words go on from the given
number. -/
def insertFrom (lengths : List Nat) : Nat → Nat → Nat → PrefixCode → PrefixCode
  | 0, _, _, code => code
  | count + 1, length, n, code =>
    let symbols := symbolsOf lengths length
    insertFrom lengths count (length + 1) (2 * (n + symbols.length)) (insertRow length symbols n code)

def maxLength : Nat := 15

/-- The canonical code of the given lengths. -/
def ofLengths (lengths : List Nat) : PrefixCode :=
  insertFrom lengths maxLength 1 0 (.branch .unused .unused)

/-- Whether the words of the given lengths use up all rows of bits. -/
def areComplete (lengths : List Nat) : Bool :=
  let used := (lengths.filter (· != 0)).foldl (fun used length => used + Nat.pow 2 (maxLength - length)) 0
  used == Nat.pow 2 maxLength

/-- The code of the given lengths, unless its words leave rows of bits over or crowd each other. A
code with less than two words may leave rows over. -/
def ofLengths? (lengths : List Nat) : Except Stop PrefixCode :=
  if areComplete lengths || (lengths.filter (· != 0)).length < 2 then .ok (ofLengths lengths)
  else .error .corrupt

def read : PrefixCode → Bits → Except Stop (Nat × Bits)
  | .unused, _ => .error .corrupt
  | .symbol s, bits => .ok (s, bits)
  | .branch zero one, bits =>
    match bits.next? with
    | none => .error .starved
    | some (false, bits) => zero.read bits
    | some (true, bits) => one.read bits

end PrefixCode

end RequestScope.Compression
