import RequestScope.Json.Fault
import RequestScope.Json.Value

/-!
# Reading numbers

A number is an integer when its digits stand alone and fit into 64 bits; otherwise it is a double,
computed from the digits that fit into 64 bits and a power of ten by at most three roundings. A
number too large for a double is refused, one too small is a zero.
-/

namespace RequestScope

/-- Multiplies or divides by a power of ten; far below the range in steps of the greatest power that
is a double. -/
def Number.Double.scaleFrom : Nat → Number.Double → Int → Option Number.Double
  | 0, x, _ => some x
  | steps + 1, x, exponent =>
    if -308 ≤ exponent ∧ exponent < 0 then some (x.div (powerOfTen (-exponent).toNat))
    else if 0 ≤ exponent ∧ exponent ≤ 308 then
      let y := x.mul (powerOfTen exponent.toNat)
      if y.isFinite then some y else none
    else if x.isZero then some x
    else if 0 ≤ exponent then none
    else scaleFrom steps (x.div (powerOfTen 308)) (exponent + 308)

/-- A whole number times a power of ten, unless it is too large. Three divisions take every whole
number of 64 bits to zero. -/
def Number.Double.ofDecimal? (negative : Bool) (digits : Nat) (exponent : Int) :
    Option Number.Double :=
  (scaleFrom 3 (ofQuotient false digits 1) exponent).map fun x => if negative then x.neg else x

namespace Json

/-- Digits in a row, as far as their value stays within a limit. -/
structure DigitRun where
  value : Nat
  count : Nat
  after : Cursor

/-- Reads digits from a place on, after digits of the given value and number. -/
def DigitRun.readFrom (limit : Nat) : List UInt8 → Position → Nat → Nat → DigitRun
  | [], p, value, count => ⟨value, count, ⟨[], p⟩⟩
  | b :: rest, p, value, count =>
    let next := value * 10 + digitValue b
    if isDigit b && next ≤ limit then readFrom limit rest (p.after b) next (count + 1)
    else ⟨value, count, ⟨b :: rest, p⟩⟩

def DigitRun.read (limit value : Nat) (c : Cursor) : DigitRun :=
  readFrom limit c.rest c.position value 0

namespace Cursor

def sees (c : Cursor) (test : UInt8 → Bool) : Bool := c.peek?.any test

def skipDigits (c : Cursor) : Cursor := c.skipWhile isDigit

/-- Whether an octet is the letter before an exponent. -/
def isExponentMark (b : UInt8) : Bool := b == 0x65 || b == 0x45

/-- Ends a number that is not an integer. -/
def finishNumber (negative : Bool) (digits : Nat) (exponent : Int) (c : Cursor) : Except Fault
    (Number × Cursor) :=
  match Number.Double.ofDecimal? negative digits exponent with
  | some x => .ok (.double x, c)
  | none => .error (c.here .numberOutOfRange)

/-- Passes the sign of an exponent; true is the sign of a negative one. -/
def exponentSign (c : Cursor) : Bool × Cursor :=
  match c.peek? with
  | some 0x2b => (false, c.next)
  | some 0x2d => (true, c.next)
  | _ => (false, c)

def maxExponent : Nat := 0x7fffffff

/-- Reads on from the letter before an exponent. An exponent of 32 bits and more decides the number
alone. -/
def readExponent (negative : Bool) (digits : Nat) (exponent : Int) (c : Cursor) : Except Fault
    (Number × Cursor) :=
  let (down, c) := c.next.exponentSign
  match c.peek? with
  | none => .error (c.here .endOfValue)
  | some b =>
    if !isDigit b then .error (c.next.here .invalidNumber)
    else
      let run := DigitRun.read maxExponent 0 c
      if run.after.sees isDigit then
        if digits ≠ 0 ∧ !down then .error (run.after.next.here .numberOutOfRange)
        else .ok (.double (Number.Double.ofMagnitude negative 0), run.after.skipDigits)
      else finishNumber negative digits (if down then exponent - run.value else exponent + run.value) run.after

/-- Reads on behind the last digit before a possible exponent. -/
def readAfterDigits (negative : Bool) (digits : Nat) (exponent : Int) (c : Cursor) : Except Fault
    (Number × Cursor) :=
  if c.sees isExponentMark then c.readExponent negative digits exponent
  else c.finishNumber negative digits exponent

/-- The greatest value of digits that are taken into account. -/
def maxDigits : Nat := 0xffffffffffffffff

def readFraction (negative : Bool) (digits : Nat) (exponent : Int) (c : Cursor) : Except Fault
    (Number × Cursor) :=
  let run := DigitRun.read maxDigits digits c.next
  if run.after.sees isDigit then run.after.skipDigits.readAfterDigits negative run.value (exponent - run.count)
  else if run.count = 0 then
    .error (run.after.ahead (if run.after.rest.isEmpty then .endOfValue else .invalidNumber))
  else run.after.readAfterDigits negative run.value (exponent - run.count)

/-- The number whose digits stand alone. A zero with a sign and what does not fit become doubles. -/
def wholeNumber (negative : Bool) (digits : Nat) : Number :=
  if !negative then .int digits
  else if digits = 0 ∨ 0x8000000000000000 < digits then .double (Number.Double.ofQuotient true digits 1)
  else .int (-digits)

def readAfterWhole (negative : Bool) (digits : Nat) (c : Cursor) : Except Fault (Number × Cursor) :=
  if c.sees (· == 0x2e) then c.readFraction negative digits 0
  else if c.sees isExponentMark then c.readExponent negative digits 0
  else .ok (wholeNumber negative digits, c)

/-- Reads a number behind its sign. Of a whole part too long for 64 bits the remaining digits count
as zeros. -/
def readNumber (negative : Bool) (c : Cursor) : Except Fault (Number × Cursor) :=
  match c.peek? with
  | none => .error (c.here .endOfValue)
  | some b =>
    if !isDigit b then .error (c.next.here .invalidNumber)
    else if b == 0x30 then
      if c.next.sees isDigit then .error (c.next.ahead .invalidNumber)
      else c.next.readAfterWhole negative 0
    else
      let run := DigitRun.read maxDigits 0 c
      let behind := run.after.skipDigits
      let dropped := behind.position.column - run.after.position.column
      if dropped = 0 then run.after.readAfterWhole negative run.value
      else if behind.sees (· == 0x2e) then behind.readFraction negative run.value dropped
      else behind.readAfterDigits negative run.value dropped

end Cursor

end Json

end RequestScope
