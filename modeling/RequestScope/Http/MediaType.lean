/-!
# Media types

The kind of a body as a header names it: a type, a subtype that may end in a suffix behind a plus
sign, and parameters. Of all this the library wants to know whether the body is JSON; the parameters
only have to be well formed.
-/

namespace RequestScope.Http

def tokenMarks : List Char :=
  ['!', '#', '$', '%', '&', '\'', '*', '+', '-', '.', '^', '_', Char.ofNat 0x60, '|', '~']

def isTokenChar (c : Char) : Bool := c.isAlphanum || tokenMarks.contains c

/-- Whether `c` may stand between quotes. -/
def isQuotedChar (c : Char) : Bool := 0x20 ≤ c.toNat && c.toNat < 0x7f

/-- How far a parameter has been read. -/
inductive ParameterState
  | nameStart
  | name
  | valueStart
  | value
  | quoteStart
  | quoted
  | quoteEnd
deriving Repr, DecidableEq

/-- What a character does to the reader of parameters. The first character between quotes may be a
quote itself. -/
def ParameterState.step? (s : ParameterState) (c : Char) : Option ParameterState :=
  match s with
  | .nameStart => if c = ' ' then some .nameStart else if isTokenChar c then some .name else none
  | .name => if isTokenChar c then some .name else if c = '=' then some .valueStart else none
  | .valueStart => if c = '"' then some .quoteStart else if isTokenChar c then some .value else none
  | .value => if isTokenChar c then some .value else if c = ';' then some .nameStart else none
  | .quoteStart => if isQuotedChar c then some .quoted else none
  | .quoted => if c = '"' then some .quoteEnd else if isQuotedChar c then some .quoted else none
  | .quoteEnd => if c = ';' then some .nameStart else if c = ' ' then some .quoteEnd else none

/-- Whether parameters may end here. -/
def ParameterState.isFinal : ParameterState → Bool
  | .nameStart | .valueStart | .value | .quoteEnd => true
  | .name | .quoteStart | .quoted => false

def areParameters (cs : List Char) : Bool :=
  (cs.foldl (fun s c => s.bind (ParameterState.step? · c)) (some .nameStart)).any ParameterState.isFinal

/-- A media type without its parameters, in lower case. -/
structure MediaType where
  type : String
  subtype : String
  suffix : Option String
deriving Repr, DecidableEq

namespace MediaType

/-- Splits the suffix off a subtype: what stands behind the last plus sign, unless that is the first
character. -/
def splitSuffix (cs : List Char) : List Char × Option (List Char) :=
  let behind := (cs.reverse.takeWhile (· != '+')).reverse
  let before := cs.take (cs.length - behind.length - 1)
  if behind.length < cs.length ∧ before ≠ [] then (before, some behind) else (cs, none)

/-- Letters of ASCII in lower case. -/
def fold (cs : List Char) : String := String.ofList (cs.map Char.toLower)

def parse? (s : String) : Option MediaType :=
  let cs := s.toList
  let type := cs.takeWhile isTokenChar
  match cs.dropWhile isTokenChar with
  | '/' :: rest =>
    let sub := rest.takeWhile isTokenChar
    let (subtype, suffix) := splitSuffix sub
    let result : MediaType := ⟨fold type, fold subtype, suffix.map fold⟩
    if type.isEmpty || sub.isEmpty then none
    else
      match rest.dropWhile isTokenChar with
      | [] => some result
      | ';' :: parameters => if areParameters parameters then some result else none
      | _ => none
  | _ => none

def isJson (m : MediaType) : Bool := m.subtype == "json" || m.suffix == some "json"

end MediaType

end RequestScope.Http
