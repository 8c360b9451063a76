import RequestScope.Number.Double

/-!
# The shortest decimal of a double

`Double.shortest` finds the fewest decimal digits that read back as a given number, and among those
the nearest to it. The search stays in natural numbers: the reals that round to the number form an
interval, and on each decimal grid the two neighbours of the number are tried against its ends.
`Double.render` lays the digits out: positionally from 10⁻⁵ up to below 10¹⁶, with an exponent
outside.
-/

namespace RequestScope.Number

namespace Double

/-- The reals that round to a positive number, as numerators over one denominator: the lower end,
the number, the upper end, and whether the ends belong to it. -/
structure Interval where
  low : Nat
  centre : Nat
  high : Nat
  den : Nat
  closed : Bool
deriving Repr, DecidableEq

/-- The interval of a positive finite number. Below a power of two the numbers lie twice as
close. -/
def interval (x : Double) : Interval :=
  let (digits, exponent) := x.unpack
  let scale (n : Nat) : Nat := if 0 ≤ exponent then n * Nat.pow 2 exponent.toNat else n
  let den := if 0 ≤ exponent then 4 else 4 * Nat.pow 2 (-exponent).toNat
  let below := if digits = leadingBit ∧ -1074 < exponent then 4 * digits - 1 else 4 * digits - 2
  ⟨scale below, scale (4 * digits), scale (4 * digits + 2), den, digits % 2 == 0⟩

/-- The least power of ten above the quotient `num / den`, by its exponent, searched upwards from
`start`. -/
def decimalOrderFrom (num den : Nat) : Nat → Int → Int
  | 0, k => k
  | fuel + 1, k =>
    let above := if 0 ≤ k then num < den * Nat.pow 10 k.toNat else num * Nat.pow 10 (-k).toNat < den
    if above then k else decimalOrderFrom num den fuel (k + 1)

/-- The exponent `k` with `10 ^ (k - 1) ≤ num / den < 10 ^ k`, for the magnitudes of doubles. -/
def decimalOrder (num den : Nat) : Int :=
  let binary := binaryOrder num den
  let guess := binary * 30103 / 100000
  decimalOrderFrom num den 4 (guess - 1)

/-- Tries one grid: the point of the given exponent at or below the number, or the next one above
it, whichever is inside and nearer; of two equally near points the even one. -/
def Interval.nearestOn (i : Interval) (exponent : Int) : Option Nat :=
  let unitNum := if 0 ≤ exponent then i.den * Nat.pow 10 exponent.toNat else i.den
  let lift (n : Nat) : Nat := if 0 ≤ exponent then n else n * Nat.pow 10 (-exponent).toNat
  let below := lift i.centre / unitNum
  let inside (n : Nat) : Bool :=
    let point := n * unitNum
    if i.closed then lift i.low ≤ point && point ≤ lift i.high
    else lift i.low < point && point < lift i.high
  let down := lift i.centre - below * unitNum
  let up := (below + 1) * unitNum - lift i.centre
  let nearer := down < up || (down == up && below % 2 == 0)
  match inside below, inside (below + 1) with
  | true, true => some (if nearer then below else below + 1)
  | true, false => some below
  | false, true => some (below + 1)
  | false, false => none

/-- The first grid with a point inside, from coarse to fine. The pair is the point's number and the
exponent of its last digit. -/
def Interval.search (i : Interval) (order : Int) : Nat → Nat → Nat × Int
  | 0, count => (0, order - count)
  | fuel + 1, count =>
    match i.nearestOn (order - count) with
    | some n => if n = 0 then i.search order fuel (count + 1) else (n, order - count)
    | none => i.search order fuel (count + 1)

/-- The digits of the shortest decimal of a positive finite number, and the exponent of the last
digit. -/
def shortest (x : Double) : Nat × Int :=
  let i := x.interval
  i.search (decimalOrder i.centre i.den) 18 1

def digitsOf (n : Nat) : List Char := Nat.toDigits 10 n

/-- The digits without zeros at the end, and how many zeros there were. -/
def stripZeros (digits : List Char) : List Char × Nat :=
  let stripped := (digits.reverse.dropWhile (· == '0')).reverse
  (stripped, digits.length - stripped.length)

/-- The text of an exponent: its digits behind a sign, which a positive one has too. -/
def renderExponent (e : Int) : List Char := (if e < 0 then '-' else '+') :: digitsOf e.natAbs

/-- The text of a positive number from its digits, whose decimal point stands after the first
`point` of them. -/
def layOut (digits : List Char) (point : Int) : List Char :=
  if -5 < point ∧ point ≤ 16 then
    if point ≤ 0 then '0' :: '.' :: List.replicate (-point).toNat '0' ++ digits
    else
      let whole := point.toNat
      if digits.length ≤ whole then digits ++ List.replicate (whole - digits.length) '0' ++ ['.', '0']
      else digits.take whole ++ '.' :: digits.drop whole
  else
    match digits with
    | [] => []
    | first :: [] => first :: 'e' :: renderExponent (point - 1)
    | first :: rest => first :: '.' :: rest ++ 'e' :: renderExponent (point - 1)

def render (x : Double) : String :=
  let sign := if x.isNegative then ['-'] else []
  if x.isZero then String.ofList (sign ++ ['0', '.', '0'])
  else
    let (n, exponent) := x.shortest
    let (digits, zeros) := stripZeros (digitsOf n)
    String.ofList (sign ++ layOut digits (exponent + zeros + digits.length))

end Double

end RequestScope.Number
