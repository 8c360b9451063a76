/-!
# Texts as octets

`Utf8.encode` writes a text as UTF-8 and `Utf8.decode` reads one back; a refusal says how many
octets in front were well formed. `Utf8.decodeLossy` reads any octets at all and puts a replacement
character where a sequence breaks off.
-/

namespace RequestScope.Text.Utf8

def encode (s : String) : List UInt8 := s.toList.flatMap String.utf8EncodeChar

/-- An octet that continues a sequence. -/
def isContinuation (b : UInt8) : Bool := 0x80 ≤ b && b < 0xc0

/-- A lead octet and a second one that begin a sequence of two. -/
def opensTwo (a b : UInt8) : Bool := 0xc2 ≤ a && a < 0xe0 && isContinuation b

/-- A lead octet and a second one that begin a sequence of three: no overlong form and no
surrogate. -/
def opensThree (a b : UInt8) : Bool :=
  0xe0 ≤ a && a < 0xf0 && isContinuation b && !(a == 0xe0 && b < 0xa0) && !(a == 0xed && 0xa0 ≤ b)

/-- A lead octet and a second one that begin a sequence of four: no overlong form and nothing above
the last code point. -/
def opensFour (a b : UInt8) : Bool :=
  0xf0 ≤ a && a < 0xf5 && isContinuation b && !(a == 0xf0 && b < 0x90) && !(a == 0xf4 && 0x90 ≤ b)

/-- The payload of a continuation octet. -/
def low (b : UInt8) : Nat := b.toNat % 0x40

def charOfTwo (a b : UInt8) : Char := Char.ofNat (a.toNat % 0x20 * 0x40 + low b)

def charOfThree (a b c : UInt8) : Char :=
  Char.ofNat ((a.toNat % 0x10 * 0x40 + low b) * 0x40 + low c)

def charOfFour (a b c d : UInt8) : Char :=
  Char.ofNat (((a.toNat % 0x08 * 0x40 + low b) * 0x40 + low c) * 0x40 + low d)

/-- Reads on after `count` well-formed octets, whose characters `read` holds in reverse. -/
def decodeFrom : List UInt8 → Nat → List Char → Except Nat (List Char)
  | [], _, read => .ok read.reverse
  | a :: tail, count, read =>
    if a < 0x80 then decodeFrom tail (count + 1) (Char.ofNat a.toNat :: read)
    else
      match tail with
      | [] => .error count
      | b :: tail₂ =>
        if opensTwo a b then decodeFrom tail₂ (count + 2) (charOfTwo a b :: read)
        else
          match tail₂ with
          | [] => .error count
          | c :: tail₃ =>
            if opensThree a b && isContinuation c then decodeFrom tail₃ (count + 3) (charOfThree a b c :: read)
            else
              match tail₃ with
              | [] => .error count
              | d :: tail₄ =>
                if opensFour a b && isContinuation c && isContinuation d then
                  decodeFrom tail₄ (count + 4) (charOfFour a b c d :: read)
                else .error count

/-- The text that the octets spell, or the number of well-formed octets in front of the fault. -/
def decode (bytes : List UInt8) : Except Nat String := (decodeFrom bytes 0 []).map String.ofList

/-- The text that the octets spell, if they spell one. -/
def decode? (bytes : List UInt8) : Option String := (decode bytes).toOption

/-- The character that stands for octets that spell none. -/
def replacement : Char := Char.ofNat 0xfffd

/-- Reads on with a replacement character for each longest beginning of a sequence that is not
finished. -/
def decodeLossyFrom : List UInt8 → List Char → List Char
  | [], read => read.reverse
  | a :: tail, read =>
    if a < 0x80 then decodeLossyFrom tail (Char.ofNat a.toNat :: read)
    else
      match tail with
      | [] => (replacement :: read).reverse
      | b :: tail₂ =>
        if opensTwo a b then decodeLossyFrom tail₂ (charOfTwo a b :: read)
        else if opensThree a b then
          match tail₂ with
          | [] => (replacement :: read).reverse
          | c :: tail₃ =>
            if isContinuation c then decodeLossyFrom tail₃ (charOfThree a b c :: read)
            else decodeLossyFrom (c :: tail₃) (replacement :: read)
        else if opensFour a b then
          match tail₂ with
          | [] => (replacement :: read).reverse
          | c :: tail₃ =>
            if isContinuation c then
              match tail₃ with
              | [] => (replacement :: read).reverse
              | d :: tail₄ =>
                if isContinuation d then decodeLossyFrom tail₄ (charOfFour a b c d :: read)
                else decodeLossyFrom (d :: tail₄) (replacement :: read)
            else decodeLossyFrom (c :: tail₃) (replacement :: read)
        else decodeLossyFrom (b :: tail₂) (replacement :: read)

/-- The text that the octets spell, with replacement characters for what spells nothing. -/
def decodeLossy (bytes : List UInt8) : String := String.ofList (decodeLossyFrom bytes [])

end RequestScope.Text.Utf8
