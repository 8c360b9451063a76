import RequestScope.Dictionary
import RequestScope.Json.Value

/-!
# Types of stored values

A schema describes a type whose values can be kept in a context: the plain types, lists and maps of
them, records and choices between variants. `Schema.Carrier` is the type itself.
-/

namespace RequestScope

/-- A type of integers, by its name and its range. -/
structure IntegerKind where
  name : String
  least : Int
  greatest : Int
deriving Repr, DecidableEq

def IntegerKind.signed (bits : Nat) : IntegerKind :=
  ⟨"i" ++ toString bits, -Int.ofNat (Nat.pow 2 (bits - 1)), Int.ofNat (Nat.pow 2 (bits - 1)) - 1⟩

def IntegerKind.unsigned (bits : Nat) : IntegerKind :=
  ⟨"u" ++ toString bits, 0, Int.ofNat (Nat.pow 2 bits) - 1⟩

structure Integer (kind : IntegerKind) where
  val : Int
  inRange : kind.least ≤ val ∧ val ≤ kind.greatest
deriving DecidableEq

namespace Integer

variable {kind : IntegerKind}

instance : LT (Integer kind) := ⟨fun a b => a.val < b.val⟩

instance : DecidableLT (Integer kind) := fun a b => inferInstanceAs (Decidable (a.val < b.val))

instance : StrictTotal (Integer kind) where
  irrefl a := Int.lt_irrefl a.val
  trans := Int.lt_trans
  connected {a b} hnot hne := by
    have hval : a.val ≠ b.val := fun h => hne (by cases a; cases b; simp_all)
    exact (Int.lt_or_gt_of_ne hval).resolve_left hnot

/-- The integer of a kind with the given value. -/
def ofInt? (n : Int) : Option (Integer kind) :=
  if h : kind.least ≤ n ∧ n ≤ kind.greatest then some ⟨n, h⟩ else none

end Integer

mutual

/-- A type of values. -/
inductive Schema
  | bool
  | integer (kind : IntegerKind)
  | double
  | character
  | text
  | unit
  | any
  | option (content : Schema)
  | list (item : Schema)
  | tuple (items : Items)
  | dictionary (value : Schema)
  | numbered (kind : IntegerKind) (value : Schema)
  | record (name : String) (strict : Bool) (fields : Fields)
  | choice (name : String) (variants : Variants)

/-- Values in a row, two or more of them. -/
inductive Items
  | pair (first second : Schema)
  | more (first : Schema) (rest : Items)

/-- The fields of a record in order. An optional field may be missing. -/
inductive Fields
  | nil
  | required (name : String) (content : Schema) (rest : Fields)
  | optional (name : String) (content : Schema) (rest : Fields)

/-- The variants of a choice: bare ones, ones with one value or with several in a row, and ones with
fields. -/
inductive Variants
  | nil
  | bare (name : String) (rest : Variants)
  | single (name : String) (content : Schema) (rest : Variants)
  | tuple (name : String) (items : Items) (rest : Variants)
  | fields (name : String) (content : Fields) (rest : Variants)

end

/-- The pairs of values of two types. -/
def Schema.pair (first second : Schema) : Schema := .tuple (.pair first second)

/-- A variant with two values in a row, in front of others. -/
def Variants.double (name : String) (first second : Schema) (rest : Variants) : Variants :=
  .tuple name (.pair first second) rest

mutual

/-- The values of a schema. -/
def Schema.Carrier : Schema → Type
  | .bool => Bool
  | .integer kind => Integer kind
  | .double => Number.Double
  | .character => Char
  | .text => String
  | .unit => Unit
  | .any => Json
  | .option content => Option content.Carrier
  | .list item => List item.Carrier
  | .tuple items => items.Carrier
  | .dictionary value => SortedMap String value.Carrier
  | .numbered kind value => SortedMap (Integer kind) value.Carrier
  | .record _ _ fields => fields.Carrier
  | .choice _ variants => variants.Carrier

def Items.Carrier : Items → Type
  | .pair first second => first.Carrier × second.Carrier
  | .more first rest => first.Carrier × rest.Carrier

def Fields.Carrier : Fields → Type
  | .nil => Unit
  | .required _ content rest => content.Carrier × rest.Carrier
  | .optional _ content rest => Option content.Carrier × rest.Carrier

def Variants.Carrier : Variants → Type
  | .nil => Empty
  | .bare _ rest => Unit ⊕ rest.Carrier
  | .single _ content rest => content.Carrier ⊕ rest.Carrier
  | .tuple _ items rest => items.Carrier ⊕ rest.Carrier
  | .fields _ content rest => content.Carrier ⊕ rest.Carrier

end

def Items.size : Items → Nat
  | .pair _ _ => 2
  | .more _ rest => rest.size + 1

def Fields.names : Fields → List String
  | .nil => []
  | .required name _ rest => name :: rest.names
  | .optional name _ rest => name :: rest.names

def Variants.names : Variants → List String
  | .nil => []
  | .bare name rest => name :: rest.names
  | .single name _ rest => name :: rest.names
  | .tuple name _ rest => name :: rest.names
  | .fields name _ rest => name :: rest.names

end RequestScope
