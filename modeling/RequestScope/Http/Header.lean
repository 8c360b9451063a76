import RequestScope.Text.Utf8

/-!
# Headers

Names and values of headers. A name is kept in lower case, so that equal names are equal texts; a
value is any row of octets without controls other than the tab. A list of headers keeps the order in
which they were added, and a name may occur more than once.
-/

namespace RequestScope.Http

/-- The punctuation that a header name may hold beside letters and digits. -/
def nameMarks : List Char :=
  ['!', '"', '#', '$', '%', '&', '\'', '*', '+', '-', '.', '^', '_', Char.ofNat 0x60, '|', '~']

/-- Whether a header name may hold `c`. -/
def isNameChar (c : Char) : Bool := c.isAlphanum || nameMarks.contains c

def maxNameLength : Nat := 65535

/-- The name of a header, in lower case. -/
structure HeaderName where
  text : String
deriving Repr, DecidableEq

/-- Reads a header name. All its characters are ASCII, so that characters are octets. -/
def HeaderName.parse? (s : String) : Option HeaderName :=
  let cs := s.toList
  if !cs.isEmpty && cs.length ≤ maxNameLength && cs.all isNameChar then
    some ⟨String.ofList (cs.map Char.toLower)⟩
  else none

def isValueOctet (b : UInt8) : Bool := (0x20 ≤ b && b != 0x7f) || b == 0x09

structure HeaderValue where
  octets : List UInt8
deriving Repr, DecidableEq

/-- The value that spells a text, if it may be one. -/
def HeaderValue.ofText? (s : String) : Option HeaderValue :=
  let octets := Text.Utf8.encode s
  if octets.all isValueOctet then some ⟨octets⟩ else none

/-- The value that spells a text of ASCII without controls. -/
def HeaderValue.ofAscii (s : String) : HeaderValue := ⟨s.toList.map fun c => c.toUInt8⟩

/-- The value of visible ASCII, spaces and tabs as a text. -/
def HeaderValue.toText? (v : HeaderValue) : Option String :=
  if v.octets.all fun b => (0x20 ≤ b && b < 0x7f) || b == 0x09 then
    some (String.ofList (v.octets.map fun b => Char.ofNat b.toNat))
  else none

/-- Headers in the order of their addition. -/
abbrev Headers := List (HeaderName × HeaderValue)

namespace Headers

def all (headers : Headers) (name : HeaderName) : List HeaderValue :=
  (headers.filter fun h => h.1 == name).map (·.2)

def first? (headers : Headers) (name : HeaderName) : Option HeaderValue := (headers.all name).head?

/-- The headers with one value under the name in place of all that there were. -/
def replace (headers : Headers) (name : HeaderName) (value : HeaderValue) : Headers :=
  headers.filter (fun h => h.1 != name) ++ [(name, value)]

end Headers

end RequestScope.Http
