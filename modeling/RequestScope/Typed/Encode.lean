import RequestScope.Typed.Datum
import RequestScope.Typed.Schema

/-!
# Writing typed values

How a value of a schema presents itself: a record as a map of its fields, a variant by its name and
its contents, an option as its contents or null.
-/

namespace RequestScope

mutual

/-- A value of a schema as a datum. -/
def Schema.toDatum : (s : Schema) → s.Carrier → Datum
  | .bool, b => .bool b
  | .integer _, n => .int n.val
  | .double, x => .double x
  | .character, c => .text (String.singleton c)
  | .text, s => .text s
  | .unit, _ => .null
  | .any, value => .json value
  | .option content, v => v.elim .null content.toDatum
  | .list item, vs => .sequence (vs.map item.toDatum)
  | .tuple items, v => .sequence (items.toData v)
  | .dictionary value, m => .map (m.toList.map fun e => (.text e.1, value.toDatum e.2))
  | .numbered _ value, m => .map (m.toList.map fun e => (.int e.1.val, value.toDatum e.2))
  | .record _ _ fields, v => .map (fields.toEntries v)
  | .choice _ variants, v => variants.toDatum v

def Items.toData : (items : Items) → items.Carrier → List Datum
  | .pair first second, (a, b) => [first.toDatum a, second.toDatum b]
  | .more first rest, (a, vs) => first.toDatum a :: rest.toData vs

def Fields.toEntries : (fields : Fields) → fields.Carrier → List (Datum.Key × Datum)
  | .nil, _ => []
  | .required name content rest, (v, vs) => (.text name, content.toDatum v) :: rest.toEntries vs
  | .optional name content rest, (v, vs) =>
    (.text name, v.elim .null content.toDatum) :: rest.toEntries vs

def Variants.toDatum : (variants : Variants) → variants.Carrier → Datum
  | .nil, v => nomatch v
  | .bare name _, .inl _ => .text name
  | .bare _ rest, .inr v => rest.toDatum v
  | .single name content _, .inl v => .map [(.text name, content.toDatum v)]
  | .single _ _ rest, .inr v => rest.toDatum v
  | .tuple name items _, .inl v => .map [(.text name, .sequence (items.toData v))]
  | .tuple _ _ rest, .inr v => rest.toDatum v
  | .fields name content _, .inl v => .map [(.text name, .map (content.toEntries v))]
  | .fields _ _ rest, .inr v => rest.toDatum v

end

def Schema.toJson (s : Schema) (v : s.Carrier) : Except Datum.Fault Json := (s.toDatum v).toJson

end RequestScope
