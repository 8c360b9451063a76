import RequestScope.Text.Invisible

/-!
# Quoted texts

A text between double quotes, as diagnostics show it: a quote, a backslash and the common controls
are written with a backslash, and a character that cannot be seen is spelled by its number.
-/

namespace RequestScope.Text

/-- One character inside a quotation. -/
def quoteChar (c : Char) : List Char :=
  if c = '"' then ['\\', '"']
  else if c = '\\' then ['\\', '\\']
  else if c = '\n' then ['\\', 'n']
  else if c = '\r' then ['\\', 'r']
  else if c = '\t' then ['\\', 't']
  else if c = Char.ofNat 0 then ['\\', '0']
  else if isInvisible c then ['\\', 'u', '\x7b'] ++ Nat.toDigits 16 c.toNat ++ ['\x7d']
  else [c]

def quote (s : String) : String := String.ofList ('"' :: s.toList.flatMap quoteChar ++ ['"'])

/-- The text in double quotes, with a backslash before single quotes as well. -/
def quoteAll (s : String) : String :=
  String.ofList ('"' :: s.toList.flatMap (fun c => if c = '\'' then ['\\', c] else quoteChar c) ++ ['"'])

end RequestScope.Text
