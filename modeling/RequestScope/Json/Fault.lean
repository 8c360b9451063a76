import RequestScope.Json.Cursor
import RequestScope.Number.Decimal
import RequestScope.Text.Quoted

/-!
# What can be wrong with a value or its text

A text can break the grammar, and a value, read from a text or stored, can differ from what the
reader wanted. Both have one wording each. A fault found in a text names its place.
-/

namespace RequestScope.Json

inductive Malformed
  | endOfValue
  | endOfList
  | endOfObject
  | endOfString
  | expectedColon
  | expectedCommaOrBracket
  | expectedCommaOrBrace
  | expectedIdent
  | expectedValue
  | nameNotString
  | invalidEscape
  | invalidNumber
  | numberOutOfRange
  | invalidCodePoint
  | controlCharacter
  | loneSurrogate
  | unfinishedSurrogate
  | trailingComma
  | trailingCharacters
  | nestedTooDeep
deriving Repr, DecidableEq

def Malformed.message : Malformed → String
  | .endOfValue => "EOF while parsing a value"
  | .endOfList => "EOF while parsing a list"
  | .endOfObject => "EOF while parsing an object"
  | .endOfString => "EOF while parsing a string"
  | .expectedColon => "expected `:`"
  | .expectedCommaOrBracket => "expected `,` or `]`"
  | .expectedCommaOrBrace => "expected `,` or `\x7d`"
  | .expectedIdent => "expected ident"
  | .expectedValue => "expected value"
  | .nameNotString => "key must be a string"
  | .invalidEscape => "invalid escape"
  | .invalidNumber => "invalid number"
  | .numberOutOfRange => "number out of range"
  | .invalidCodePoint => "invalid unicode code point"
  | .controlCharacter => "control character (\\u0000-\\u001F) found while parsing a string"
  | .loneSurrogate => "lone leading surrogate in hex escape"
  | .unfinishedSurrogate => "unexpected end of hex escape"
  | .trailingComma => "trailing comma"
  | .trailingCharacters => "trailing characters"
  | .nestedTooDeep => "recursion limit exceeded"

/-- What a reader found where it wanted something else. -/
inductive Found
  | null
  | boolean (b : Bool)
  | integer (n : Int)
  | double (x : Number.Double)
  | text (s : String)
  | sequence
  | map
  | bareVariant
deriving Repr, DecidableEq

/-- How a diagnostic names what was found. -/
def Found.describe : Found → String
  | .null => "null"
  | .boolean true => "boolean `true`"
  | .boolean false => "boolean `false`"
  | .integer n => "integer `" ++ toString n ++ "`"
  | .double x => "floating point `" ++ x.render ++ "`"
  | .text s => "string " ++ Text.quote s
  | .sequence => "sequence"
  | .map => "map"
  | .bareVariant => "unit variant"

/-- The difference between a value and what a reader wanted. The wanted thing is given by its name
in diagnostics. -/
inductive Mismatch
  | wrongType (found : Found) (wanted : String)
  | wrongValue (found : Found) (wanted : String)
  | wrongLength (length : Nat) (wanted : String)
  | keyNotNumber
  | missingField (name : String)
  | duplicateField (name : String)
  | unknownField (name : String) (known : List String)
  | unknownVariant (name : String) (known : List String)
  | numberText (reason : Malformed)
deriving Repr, DecidableEq

/-- The names that would have been right, as a diagnostic lists them. -/
def listNames : List String → String
  | [name] => "`" ++ name ++ "`"
  | [first, second] => "`" ++ first ++ "` or `" ++ second ++ "`"
  | names => "one of " ++ ", ".intercalate (names.map fun name => "`" ++ name ++ "`")

def Mismatch.message : Mismatch → String
  | .wrongType found wanted => "invalid type: " ++ found.describe ++ ", expected " ++ wanted
  | .wrongValue found wanted => "invalid value: " ++ found.describe ++ ", expected " ++ wanted
  | .wrongLength length wanted => "invalid length " ++ toString length ++ ", expected " ++ wanted
  | .keyNotNumber => "invalid value: expected key to be a number in quotes"
  | .missingField name => "missing field `" ++ name ++ "`"
  | .duplicateField name => "duplicate field `" ++ name ++ "`"
  | .unknownField name known => "unknown field `" ++ name ++ "`, expected " ++ listNames known
  | .unknownVariant name known => "unknown variant `" ++ name ++ "`, expected " ++ listNames known
  | .numberText reason => reason.message

/-- What is wrong at some place of a text. -/
inductive Cause
  | malformed (reason : Malformed)
  | mismatch (reason : Mismatch)
deriving Repr, DecidableEq

def Cause.message : Cause → String
  | .malformed reason => reason.message
  | .mismatch reason => reason.message

/-- A cause and its place. -/
structure Fault where
  cause : Cause
  position : Position
deriving Repr, DecidableEq

def Position.describe (p : Position) : String :=
  " at line " ++ toString p.line ++ " column " ++ toString p.column

def Fault.message (f : Fault) : String := f.cause.message ++ f.position.describe

/-- A breach of the grammar at the place reached. -/
def Cursor.here (c : Cursor) (reason : Malformed) : Fault := ⟨.malformed reason, c.position⟩

/-- A breach of the grammar at the octet looked at. -/
def Cursor.ahead (c : Cursor) (reason : Malformed) : Fault := ⟨.malformed reason, c.peeked⟩

end RequestScope.Json
