import RequestScope.Json.Value

/-!
# JSON texts

The compact text of a value: no blanks, members in the order of the object, texts with the short
escapes where there is one and the others controls spelled in hexadecimal. Characters outside ASCII
stand for themselves.
-/

namespace RequestScope.Json

def hexPair (n : Nat) : List Char := [Nat.digitChar (n / 16 % 16), Nat.digitChar (n % 16)]

/-- One character inside a JSON string. -/
def escapeChar (c : Char) : List Char :=
  if c = '"' then ['\\', '"']
  else if c = '\\' then ['\\', '\\']
  else if c = '\n' then ['\\', 'n']
  else if c = '\r' then ['\\', 'r']
  else if c = '\t' then ['\\', 't']
  else if c.toNat = 0x8 then ['\\', 'b']
  else if c.toNat = 0xc then ['\\', 'f']
  else if c.toNat < 0x20 then ['\\', 'u', '0', '0'] ++ hexPair c.toNat
  else [c]

def renderString (s : String) : List Char := '"' :: s.toList.flatMap escapeChar ++ ['"']

def renderInt (n : Int) : List Char :=
  if n < 0 then '-' :: Nat.toDigits 10 n.natAbs else Nat.toDigits 10 n.natAbs

/-- The text of a number. Nothing that is not finite is ever stored. -/
def Number.render : Number → List Char
  | .int n => renderInt n
  | .double x => x.render.toList

mutual

def renderChars : Json → List Char
  | .null => ['n', 'u', 'l', 'l']
  | .bool true => ['t', 'r', 'u', 'e']
  | .bool false => ['f', 'a', 'l', 's', 'e']
  | .number n => n.render
  | .string s => renderString s
  | .array [] => ['[', ']']
  | .array (item :: items) => '[' :: renderChars item ++ renderItems items
  | .object [] => ['\x7b', '\x7d']
  | .object (member :: members) => '\x7b' :: renderMember member ++ renderMembers members

/-- The items after the first one and the closing bracket. -/
def renderItems : List Json → List Char
  | [] => [']']
  | item :: items => ',' :: renderChars item ++ renderItems items

def renderMember : String × Json → List Char
  | (name, value) => renderString name ++ ':' :: renderChars value

/-- The members after the first one and the closing brace. -/
def renderMembers : List (String × Json) → List Char
  | [] => ['\x7d']
  | member :: members => ',' :: renderMember member ++ renderMembers members

end

def render (value : Json) : String := String.ofList value.renderChars

end RequestScope.Json
