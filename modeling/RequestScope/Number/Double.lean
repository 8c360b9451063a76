/-!
# Double-precision numbers

A finite number of 53 binary digits, kept as its interchange pattern, with the arithmetic that
reading a decimal needs. Every operation computes the exact quotient of two natural numbers and
rounds once, to the nearest number and from a tie to the even one, so that nothing depends on the
arithmetic of a processor.
-/

namespace RequestScope.Number

/-- A number in the interchange format of 64 bits. -/
structure Double where
  bits : UInt64
deriving Repr, DecidableEq, Inhabited

namespace Double

def infinityBits : Nat := 0x7ff0000000000000

def signBit : Nat := 0x8000000000000000

/-- The weight of the first of the 53 digits, which the pattern leaves out. -/
def leadingBit : Nat := 0x10000000000000

/-- A number from its sign and the pattern of its magnitude. -/
def ofMagnitude (negative : Bool) (magnitude : Nat) : Double :=
  ⟨UInt64.ofNat (if negative then signBit + magnitude else magnitude)⟩

/-- Whether the sign bit is set; a zero has a sign too. -/
def isNegative (x : Double) : Bool := signBit ≤ x.bits.toNat

def magnitude (x : Double) : Nat := x.bits.toNat % signBit

/-- Neither infinite nor a refusal of a number. -/
def isFinite (x : Double) : Bool := x.magnitude < infinityBits

def isZero (x : Double) : Bool := x.magnitude == 0

/-- The same magnitude with the other sign. -/
def neg (x : Double) : Double := ofMagnitude (!x.isNegative) x.magnitude

/-- The magnitude of a finite number is its first part times two to the power of the second. -/
def unpack (x : Double) : Nat × Int :=
  let exponent : Nat := x.magnitude / leadingBit
  let fraction : Nat := x.magnitude % leadingBit
  if exponent = 0 then (fraction, -1074) else (leadingBit + fraction, (exponent : Int) - 1075)

/-- The quotient of two natural numbers, rounded to the nearest one and from a tie to the even
one. -/
def roundQuotient (num den : Nat) : Nat :=
  let quotient := num / den
  let twice := 2 * (num % den)
  if den < twice then quotient + 1
  else if twice = den then quotient + quotient % 2
  else quotient

/-- The power of two at or below the quotient of two positive numbers. -/
def binaryOrder (num den : Nat) : Int :=
  let guess : Int := (Nat.log2 num : Int) - Nat.log2 den
  let reached :=
    if 0 ≤ guess then den * Nat.pow 2 guess.toNat ≤ num else den ≤ num * Nat.pow 2 (-guess).toNat
  if reached then guess else guess - 1

/-- The number nearest to a quotient of natural numbers with the given sign. What is too large
becomes infinite. -/
def ofQuotient (negative : Bool) (num den : Nat) : Double :=
  if num = 0 then ofMagnitude negative 0
  else
    let exponent := max (binaryOrder num den - 52) (-1074)
    let digits :=
      if 0 ≤ exponent then roundQuotient num (den * Nat.pow 2 exponent.toNat)
      else roundQuotient (num * Nat.pow 2 (-exponent).toNat) den
    let magnitude :=
      if digits < leadingBit then digits
      else (exponent + 1075).toNat * leadingBit + (digits - leadingBit)
    ofMagnitude negative (min magnitude infinityBits)

/-- The number nearest to an integer. -/
def ofInt (n : Int) : Double := ofQuotient (n < 0) n.natAbs 1

def quotient (x : Double) : Nat × Nat :=
  let (digits, exponent) := x.unpack
  if 0 ≤ exponent then (digits * Nat.pow 2 exponent.toNat, 1)
  else (digits, Nat.pow 2 (-exponent).toNat)

/-- The product of two finite numbers, rounded once. -/
def mul (x y : Double) : Double :=
  ofQuotient (x.isNegative != y.isNegative) (x.quotient.1 * y.quotient.1) (x.quotient.2 * y.quotient.2)

/-- The quotient of two finite numbers, the second not zero, rounded once. -/
def div (x y : Double) : Double :=
  ofQuotient (x.isNegative != y.isNegative) (x.quotient.1 * y.quotient.2) (x.quotient.2 * y.quotient.1)

def powerOfTen (n : Nat) : Double := ofQuotient false (Nat.pow 10 n) 1

end Double

end RequestScope.Number
