import RequestScope.Settings.Variables
import RequestScope.Text.Alphanumeric
import RequestScope.Text.Blank
import RequestScope.Text.Quoted

/-!
# Files of environment variables

A file assigns values to variables, one to a line. A variable that is a text already keeps its
value, so that the environment wins over a file and the first line of a file over the later ones; the
first line that cannot be read ends the loading. Values may be quoted and may refer to variables and
to the values of earlier lines. A value that no variable can hold is the end of the process.
-/

namespace RequestScope.Settings

/-- The values assigned by the lines read so far. -/
abbrev Assignments := Dictionary String

namespace EnvFile

/-! ### Values -/

/-- How far a reference to a variable has been read. -/
inductive Reference
  | none
  | bare
  | braced
deriving Repr, DecidableEq

/-- The reader of a value. The text of the value and the name of a reference are kept in reverse. -/
structure ValueState where
  singleQuoted : Bool := false
  doubleQuoted : Bool := false
  escaped : Bool := false
  ended : Bool := false
  reference : Reference := .none
  name : List Char := []
  text : List Char := []
deriving Repr, DecidableEq

/-- The text that a reference stands for: the variable's, or that of an earlier line, or nothing. -/
def expand (vars : Variables) (earlier : Assignments) (name : String) : String :=
  match vars.text? name with
  | some value => value
  | none => (earlier.get? name).getD ""

namespace ValueState

/-- Puts the text of the reference read so far behind the value. -/
def substitute (s : ValueState) (vars : Variables) (earlier : Assignments) : ValueState :=
  { s with name := [], text := (expand vars earlier (String.ofList s.name.reverse)).toList.reverse ++ s.text }

def push (s : ValueState) (c : Char) : ValueState := { s with text := c :: s.text }

/-- What the character behind a backslash stands for. -/
def unescape? (c : Char) : Option Char :=
  if c = '\\' ∨ c = '\'' ∨ c = '"' ∨ c = '$' ∨ c = ' ' then some c
  else if c = 'n' then some '\n'
  else none

/-- Reads one character inside a reference. A bare name ends at the first character that is no
letter or digit. -/
def stepReference (s : ValueState) (vars : Variables) (earlier : Assignments) (c : Char) :
    ValueState :=
  if Text.isAlphanumeric c then { s with name := c :: s.name }
  else if s.reference = .braced then
    if c = '\x7d' then { s.substitute vars earlier with reference := .none }
    else { s with name := c :: s.name }
  else if c = '\x7b' ∧ s.name.isEmpty then { s with reference := .braced }
  else if c = '$' then s.substitute vars earlier
  else { (s.substitute vars earlier).push c with reference := .none }

/-- Reads one character outside single quotes, escapes and references. -/
def stepPlain (s : ValueState) (c : Char) : ValueState :=
  if c = '$' then { s with reference := .bare }
  else if s.doubleQuoted then
    if c = '"' then { s with doubleQuoted := false }
    else if c = '\\' then { s with escaped := true }
    else s.push c
  else if c = '\'' then { s with singleQuoted := true }
  else if c = '"' then { s with doubleQuoted := true }
  else if c = '\\' then { s with escaped := true }
  else if c = ' ' ∨ c = '\t' then { s with ended := true }
  else s.push c

/-- Reads one character of a value that has not ended. -/
def step? (s : ValueState) (vars : Variables) (earlier : Assignments) (c : Char) :
    Option ValueState :=
  if s.escaped then (unescape? c).map fun c => { s.push c with escaped := false }
  else if s.singleQuoted then some (if c = '\'' then { s with singleQuoted := false } else s.push c)
  else if s.reference ≠ .none then some (s.stepReference vars earlier c)
  else some (s.stepPlain c)

/-- The value when its text has been read. An open quote or brace is a fault; an open reference
stands for its variable. -/
def finish? (s : ValueState) (vars : Variables) (earlier : Assignments) : Option String :=
  if s.reference = .braced ∨ s.singleQuoted ∨ s.doubleQuoted then none
  else some (String.ofList (s.substitute vars earlier).text.reverse)

/-- Reads the characters of a value. Behind its end only blanks and a comment may stand. -/
def run? (vars : Variables) (earlier : Assignments) : List Char → ValueState → Option String
  | [], s => s.finish? vars earlier
  | c :: rest, s =>
    if s.ended then
      if c = ' ' ∨ c = '\t' then run? vars earlier rest s
      else if c = '#' then s.finish? vars earlier
      else none
    else
      match s.step? vars earlier c with
      | some s => run? vars earlier rest s
      | none => none

end ValueState

def parseValue? (vars : Variables) (earlier : Assignments) (cs : List Char) : Option String :=
  ValueState.run? vars earlier cs {}

/-! ### Lines -/

def isNameStart (c : Char) : Bool := c.isAlpha || c == '_'

def isNameChar (c : Char) : Bool := c.isAlphanum || c == '_' || c == '.'

def splitName? (cs : List Char) : Option (String × List Char) :=
  if cs.head?.any isNameStart then
    some (String.ofList (cs.takeWhile isNameChar), Text.trimStart (cs.dropWhile isNameChar))
  else none

def splitEquals? : List Char → Option (List Char)
  | '=' :: rest => some rest
  | _ => none

/-- The name that a line assigns to and the text of the value. A line may begin with the word
`export`, which may also be a name. -/
def splitLine? (cs : List Char) : Option (String × List Char) := do
  let (name, rest) ← splitName? cs
  if name = "export" then
    match splitEquals? rest with
    | some value => return (name, Text.trimStart value)
    | none =>
      let (name, rest) ← splitName? rest
      return (name, Text.trimStart (← splitEquals? rest))
  else return (name, Text.trimStart (← splitEquals? rest))

/-- Whether nothing is left of a line but a comment. -/
def isVoid (cs : List Char) : Bool := cs.isEmpty || cs.head? == some '#'

inductive Line
  | void
  | assignment (name value : String)
  | invalid
deriving Repr, DecidableEq

def parseLine (vars : Variables) (earlier : Assignments) (line : String) : Line :=
  let cs := Text.trimStart (Text.trimEnd line.toList)
  if isVoid cs then .void
  else
    match splitLine? cs with
    | none => .invalid
    | some (name, rest) =>
      if isVoid rest then .assignment name ""
      else
        match parseValue? vars earlier rest with
        | some value => .assignment name value
        | none => .invalid

/-- The lines of a file: what stands before each line break, and the rest if there is any. -/
def splitLines (bytes : List UInt8) : List (List UInt8) :=
  let lines := bytes.splitOn 0x0a
  if lines.getLast? == some [] then lines.dropLast else lines

/-- Assigns a value to a variable unless it has a text. -/
def assign (vars : Variables) (name value : String) : Variables :=
  if (vars.text? name).isSome then vars else vars.insert name (Text.Utf8.encode value)

/-- A value that was to be assigned to a variable and has a character that no variable can hold. -/
structure Unassignable where
  name : String
  value : String
deriving Repr, DecidableEq

def Unassignable.message (u : Unassignable) : String :=
  "failed to set environment variable `" ++ Text.quoteAll u.name ++ "` to `" ++ Text.quoteAll u.value
    ++ "`: file name contained an unexpected NUL byte"

/-- Whether a value cannot be assigned to a variable that is to take it. -/
def isUnassignable (vars : Variables) (name value : String) : Bool :=
  (vars.text? name).isNone && value.toList.contains (Char.ofNat 0)

/-- What a file leaves behind: the variables, and the fault if one has put an end to the whole process. -/
structure Loaded where
  vars : Variables
  fault : Option Unassignable := none

/-- Carries out the lines of a file up to the first invalid one. -/
def loadLines : List (List UInt8) → Assignments → Variables → Loaded
  | [], _, vars => ⟨vars, none⟩
  | line :: lines, earlier, vars =>
    match Text.Utf8.decode? line with
    | none => ⟨vars, none⟩
    | some text =>
      match parseLine vars earlier text with
      | .void => loadLines lines earlier vars
      | .assignment name value =>
        if isUnassignable vars name value then ⟨vars, some ⟨name, value⟩⟩
        else loadLines lines (earlier.insert name value) (assign vars name value)
      | .invalid => ⟨vars, none⟩

def load (bytes : List UInt8) (vars : Variables) : Loaded := loadLines (splitLines bytes) .empty vars

/-- The file that belongs to the profile of the environment. -/
def chosen (vars : Variables) : String :=
  match (vars.text? "PROFILE").getD "dev" with
  | "prod" => ".env.prod"
  | "dev" => ".env.dev"
  | _ => ".env"

/-- What is left behind when the file of the profile has been loaded, if there is such a file. -/
def loadChosen (files : Dictionary (List UInt8)) (vars : Variables) : Loaded :=
  match files.get? (chosen vars) with
  | some bytes => load bytes vars
  | none => ⟨vars, none⟩

end EnvFile

end RequestScope.Settings
