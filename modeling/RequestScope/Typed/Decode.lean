import RequestScope.Json.Fault
import RequestScope.Json.Numeral
import RequestScope.Text.Utf8
import RequestScope.Typed.Schema

/-!
# Reading typed values

The value of a schema that a JSON value stands for, or the first difference between the two. Items
and members are looked at in their order; a record reports a missing field only when all its members
are right.
-/

namespace RequestScope

open Json (Found Mismatch Fault)

/-- Why a JSON value is no value of a schema: it differs, or one of its keys is not the text of a
wanted number. -/
inductive Misread
  | value (reason : Mismatch)
  | key (fault : Fault)
deriving Repr, DecidableEq

def Misread.message : Misread → String
  | .value reason => reason.message
  | .key fault => fault.message

/-- What a JSON value is, as diagnostics name it. -/
def Json.found : Json → Found
  | .null => .null
  | .bool b => .boolean b
  | .number (.int n) => .integer n
  | .number (.double x) => .double x
  | .string s => .text s
  | .array _ => .sequence
  | .object _ => .map

/-- A JSON value where something else was wanted. -/
def Json.unwanted (value : Json) (wanted : String) : Except Misread α :=
  .error (.value (.wrongType value.found wanted))

namespace Typed

variable {κ α β : Type}

/-- Reads an integer of a kind. A double is never one. -/
def decodeInteger (kind : IntegerKind) : Json → Except Misread (Integer kind)
  | .number (.int n) =>
    match Integer.ofInt? n with
    | some i => .ok i
    | none => .error (.value (.wrongValue (.integer n) kind.name))
  | value => value.unwanted kind.name

/-- Reads a double. An integer is the nearest one. -/
def decodeDouble : Json → Except Misread Number.Double
  | .number (.double x) => .ok x
  | .number (.int n) => .ok (Number.Double.ofInt n)
  | value => value.unwanted "f64"

/-- Reads a text of one character. -/
def decodeCharacter : Json → Except Misread Char
  | .string s =>
    match s.toList with
    | [c] => .ok c
    | _ => .error (.value (.wrongValue (.text s) "a character"))
  | value => value.unwanted "a character"

/-- Reads a number of a kind from the text of a key, which must be nothing but a JSON number. -/
def decodeKey (kind : IntegerKind) (key : String) : Except Misread (Integer kind) := do
  let c := Json.Cursor.start (Text.Utf8.encode key)
  let minus := c.sees (· == 0x2d)
  if !minus && !c.sees Json.isDigit then throw (.value .keyNotNumber)
  let (number, after) ← ((if minus then c.next.readNumber true else c.readNumber false).mapError .key)
  match number with
  | .int n =>
    match Integer.ofInt? n with
    | some i => if after.rest.isEmpty then return i else throw (.value .keyNotNumber)
    | none => throw (.key ⟨.mismatch (.wrongValue (.integer n) kind.name), after.position⟩)
  | .double x => throw (.key ⟨.mismatch (.wrongType (.double x) kind.name), after.position⟩)

/-- Reads the entries of a map, each key before its value. -/
def decodeEntries (key : String → Except Misread κ) (value : Json → Except Misread α) : List
    (String × Json) → Except Misread (List (κ × α))
  | [] => .ok []
  | (name, json) :: members => do
    let k ← key name
    let v ← value json
    return (k, v) :: (← decodeEntries key value members)

def decodeItems (item : Json → Except Misread α) : List Json → Except Misread (List α)
  | [] => .ok []
  | json :: items => do
    let v ← item json
    return v :: (← decodeItems item items)

/-- Reads an option: null is none. -/
def decodeOption (content : Json → Except Misread α) : Json → Except Misread (Option α)
  | .null => .ok none
  | value => (content value).map some

/-- Checks the members of an object one after the other. -/
def checkAll (check : String × Json → Except Misread Unit) : List (String × Json) →
    Except Misread Unit
  | [] => .ok ()
  | member :: members => do
    check member
    checkAll check members

/-- Whether a member that is no field is let pass. -/
def checkOther (strict : Bool) (known : List String) (name : String) : Except Misread Unit :=
  if strict then .error (.value (.unknownField name known)) else .ok ()

/-- Reads the next item of a row, of which `count` have been read, and goes on with the rest. -/
def decodeNext (wanted : String) (count : Nat) (item : Json → Except Misread α)
    (next : List Json → Except Misread β) : List Json → Except Misread (α × β)
  | [] => .error (.value (.wrongLength count wanted))
  | json :: rest => do
    let v ← item json
    return (v, ← next rest)

/-- The end of a row of which `length` items were there at first. -/
def decodeEnd (length : Nat) (rest : List Json) : Except Misread Unit :=
  if rest.isEmpty then .ok () else .error (.value (.wrongLength length "fewer elements in array"))

end Typed

/-- The name of a value that has as many parts as there are fields. -/
def Fields.wantedLength (wanted : String) (fields : Fields) : String :=
  let count := fields.names.length
  wanted ++ " with " ++ toString count ++ (if count = 1 then " element" else " elements")

open Typed

mutual

def Schema.decode : (s : Schema) → Json → Except Misread s.Carrier
  | .bool, value =>
    match value with
    | .bool b => .ok b
    | value => value.unwanted "a boolean"
  | .integer kind, value => decodeInteger kind value
  | .double, value => decodeDouble value
  | .character, value => decodeCharacter value
  | .text, value =>
    match value with
    | .string s => .ok s
    | value => value.unwanted "a string"
  | .unit, value =>
    match value with
    | .null => .ok ()
    | value => value.unwanted "unit"
  | .any, value => .ok value
  | .option content, value => decodeOption content.decode value
  | .list item, value =>
    match value with
    | .array items => decodeItems item.decode items
    | value => value.unwanted "a sequence"
  | .tuple items, value =>
    let wanted := "a tuple of size " ++ toString items.size
    match value with
    | .array values => items.decode wanted values.length 0 values
    | value => value.unwanted wanted
  | .dictionary content, value =>
    match value with
    | .object members => (decodeEntries Except.ok content.decode members).map SortedMap.ofList
    | value => value.unwanted "a map"
  | .numbered kind content, value =>
    match value with
    | .object members =>
      (decodeEntries (decodeKey kind) content.decode members).map SortedMap.ofList
    | value => value.unwanted "a map"
  | .record name strict fields, value =>
    match value with
    | .object members => do
      checkAll (fields.check (checkOther strict fields.names)) members
      fields.ofMembers members
    | .array items => fields.ofItems (fields.wantedLength ("struct " ++ name)) items.length 0 items
    | value => value.unwanted ("struct " ++ name)
  | .choice name variants, value =>
    match value with
    | .string variant => variants.decode name variants.names variant none
    | .object [(variant, content)] => variants.decode name variants.names variant (some content)
    | .object _ => .error (.value (.wrongValue .map "map with a single key"))
    | value => value.unwanted "string or map"

/-- Reads the values of a row, of which `count` have been read and `length` were there at first. -/
def Items.decode (wanted : String) (length : Nat) : (items : Items) → Nat → List Json →
    Except Misread items.Carrier
  | .pair first second, count, values =>
    decodeNext wanted count first.decode (fun values =>
      (decodeNext wanted (count + 1) second.decode (decodeEnd length) values).map (·.1)) values
  | .more first rest, count, values =>
    decodeNext wanted count first.decode (rest.decode wanted length (count + 1)) values

/-- Checks one member of an object. `otherwise` is the answer for a name that is no field. -/
def Fields.check : Fields → (String → Except Misread Unit) → String × Json → Except Misread Unit
  | .nil, otherwise, member => otherwise member.1
  | .required field content rest, otherwise, member =>
    if member.1 = field then (content.decode member.2).map fun _ => ()
    else rest.check otherwise member
  | .optional field content rest, otherwise, member =>
    if member.1 = field then (decodeOption content.decode member.2).map fun _ => ()
    else rest.check otherwise member

/-- Reads the fields from the members of an object. -/
def Fields.ofMembers : (fields : Fields) → List (String × Json) → Except Misread fields.Carrier
  | .nil, _ => .ok ()
  | .required name content rest, members => do
    match SortedMap.lookup name members with
    | none => throw (.value (.missingField name))
    | some value => return (← content.decode value, ← rest.ofMembers members)
  | .optional name content rest, members => do
    match SortedMap.lookup name members with
    | none => return (none, ← rest.ofMembers members)
    | some value => return (← decodeOption content.decode value, ← rest.ofMembers members)

/-- Reads the fields from the items of a list, of which `count` have been read and `length` were
there at first. -/
def Fields.ofItems (wanted : String) (length : Nat) : (fields : Fields) → Nat → List Json →
    Except Misread fields.Carrier
  | .nil, _, items =>
    if items.isEmpty then .ok ()
    else .error (.value (.wrongLength length "fewer elements in array"))
  | .required _ content rest, count, items => do
    match items with
    | [] => throw (.value (.wrongLength count wanted))
    | value :: items =>
      return (← content.decode value, ← rest.ofItems wanted length (count + 1) items)
  | .optional _ content rest, count, items => do
    match items with
    | [] => return (none, ← rest.ofItems wanted length (count + 1) [])
    | value :: items =>
      return (← decodeOption content.decode value, ← rest.ofItems wanted length (count + 1) items)

/-- Reads the variant with the given name, with its contents if there are any. -/
def Variants.decode (choice : String) (known : List String) : (variants : Variants) → String →
    Option Json → Except Misread variants.Carrier
  | .nil, variant, _ => .error (.value (.unknownVariant variant known))
  | .bare name rest, variant, content =>
    if variant = name then
      match content with
      | none | some .null => .ok (.inl ())
      | some value => value.unwanted "unit"
    else (rest.decode choice known variant content).map .inr
  | .single name schema rest, variant, content =>
    if variant = name then
      match content with
      | none => .error (.value (.wrongType .bareVariant "newtype variant"))
      | some value => (schema.decode value).map .inl
    else (rest.decode choice known variant content).map .inr
  | .tuple name items rest, variant, content =>
    let wanted := "tuple variant " ++ choice ++ "::" ++ name
    if variant = name then
      match content with
      | none => .error (.value (.wrongType .bareVariant "tuple variant"))
      | some (.array []) => .error (.value (.wrongType .null wanted))
      | some (.array values) =>
        let counted := wanted ++ " with " ++ toString items.size ++ " elements"
        (items.decode counted values.length 0 values).map .inl
      | some value => value.unwanted "tuple variant"
    else (rest.decode choice known variant content).map .inr
  | .fields name schema rest, variant, content =>
    if variant = name then
      match content with
      | none => .error (.value (.wrongType .bareVariant "struct variant"))
      | some (.object members) => do
        checkAll (schema.check (checkOther false schema.names)) members
        return .inl (← schema.ofMembers members)
      | some value => value.unwanted "struct variant"
    else (rest.decode choice known variant content).map .inr

end

end RequestScope
