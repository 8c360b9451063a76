import Mathlib.Data.List.Perm.Basic
import Mathlib.Data.Set.List
import RequestScope.Proofs.Dictionary
import RequestScope.Proofs.Json.Integers
import RequestScope.Typed.Encode

/-!
# Types without loss

The values of a type without loss come back from the JSON values that they are written as. Left out are
the doubles, of which some are written as null, and the options of what may itself be written as null.
Integers may have up to 64 bits, and the fields of a record as well as the variants of a choice have
names of their own.
-/

namespace RequestScope

open Typed

/-- The integers of a kind are kept exactly. -/
def IntegerKind.Exact (kind : IntegerKind) : Prop :=
  Json.minInt ≤ kind.least ∧ kind.greatest ≤ Json.maxInt

/-- No value of a type is written as null. -/
def Schema.NeverNull : Schema → Prop
  | .double | .unit | .any | .option _ => False
  | _ => True

mutual

/-- The values of a type come back as they were. -/
def Schema.Lossless : Schema → Prop
  | .double => False
  | .bool | .character | .text | .unit | .any => True
  | .integer kind => kind.Exact
  | .option content => content.Lossless ∧ content.NeverNull
  | .list item => item.Lossless
  | .tuple items => items.Lossless
  | .dictionary value => value.Lossless
  | .numbered kind value => kind.Exact ∧ value.Lossless
  | .record _ _ fields => fields.Lossless ∧ fields.names.Nodup
  | .choice _ variants => variants.Lossless ∧ variants.names.Nodup

def Items.Lossless : Items → Prop
  | .pair first second => first.Lossless ∧ second.Lossless
  | .more first rest => first.Lossless ∧ rest.Lossless

def Fields.Lossless : Fields → Prop
  | .nil => True
  | .required _ content rest => content.Lossless ∧ rest.Lossless
  | .optional _ content rest => (content.Lossless ∧ content.NeverNull) ∧ rest.Lossless

def Variants.Lossless : Variants → Prop
  | .nil => True
  | .bare _ rest => rest.Lossless
  | .single _ content rest => content.Lossless ∧ rest.Lossless
  | .tuple _ items rest => items.Lossless ∧ rest.Lossless
  | .fields _ content rest => (content.Lossless ∧ content.names.Nodup) ∧ rest.Lossless

end

/-! ### Integers -/

theorem IntegerKind.exact_signed {bits : Nat} (h : bits ≤ 64) : (signed bits).Exact := by
  have hpow : 2 ^ (bits - 1) ≤ 2 ^ 63 := Nat.pow_le_pow_right (by omega) (by omega)
  simp only [Exact, signed, Json.minInt, Json.maxInt, Nat.pow_eq, Int.ofNat_eq_natCast]
  omega

theorem IntegerKind.exact_unsigned {bits : Nat} (h : bits ≤ 64) : (unsigned bits).Exact := by
  have hpow : 2 ^ bits ≤ 2 ^ 64 := Nat.pow_le_pow_right (by omega) h
  simp only [Exact, unsigned, Json.minInt, Json.maxInt, Nat.pow_eq, Int.ofNat_eq_natCast]
  omega

theorem IntegerKind.Exact.range {kind : IntegerKind} (h : kind.Exact) (i : Integer kind) :
    Json.minInt ≤ i.val ∧ i.val ≤ Json.maxInt :=
  ⟨Int.le_trans h.1 i.inRange.1, Int.le_trans i.inRange.2 h.2⟩

theorem Integer.toJson_eq {kind : IntegerKind} (h : kind.Exact) (i : Integer kind) :
    (Schema.integer kind).toJson i = .ok (.ofInt i.val) :=
  if_pos (h.range i)

/-- An integer is read at every kind that has it, -/
theorem Typed.decodeInteger_of_inRange {kind : IntegerKind} {n : Int}
    (h : kind.least ≤ n ∧ n ≤ kind.greatest) : decodeInteger kind (.ofInt n) = .ok ⟨n, h⟩ := by
  have hinRange : Integer.ofInt? n = some (⟨n, h⟩ : Integer kind) := dif_pos h
  rw [Json.ofInt, decodeInteger, hinRange]

/-- and refused at every other. -/
theorem Typed.decodeInteger_of_not_inRange {kind : IntegerKind} {n : Int}
    (h : ¬ (kind.least ≤ n ∧ n ≤ kind.greatest)) :
    decodeInteger kind (.ofInt n) = .error (.value (.wrongValue (.integer n) kind.name)) := by
  have hinRange : (Integer.ofInt? n : Option (Integer kind)) = none := dif_neg h
  rw [Json.ofInt, decodeInteger, hinRange]

namespace Schema

/-- A value is written as a JSON value and read back from it. -/
structure Keeps (s : Schema) (v : s.Carrier) (json : Json) : Prop where
  written : s.toJson v = .ok json
  read : s.decode json = .ok v

/-! ### Null -/

theorem NeverNull.decode_null {s : Schema} (h : s.NeverNull) (v : s.Carrier) : s.decode .null ≠ .ok v := by
  intro hread
  cases s with
  | double | unit | any | option => exact h
  | _ => nomatch hread

theorem Keeps.ne_null {s : Schema} (h : s.NeverNull) {v : s.Carrier} {json : Json} (hkeeps : s.Keeps v json) :
    json ≠ .null := by
  rintro rfl
  exact h.decode_null v hkeeps.read

/-- An option of what is never null is none just when it is null. -/
theorem keeps_option {content : Schema} (hnull : content.NeverNull)
    (hcontent : ∀ v, ∃ json, content.Keeps v json) (v : Option content.Carrier) :
    ∃ json, (option content).Keeps v json := by
  cases v with
  | none => exact ⟨.null, rfl, rfl⟩
  | some v =>
    obtain ⟨json, hkeeps⟩ := hcontent v
    refine ⟨json, hkeeps.written, ?_⟩
    -- Null alone is read as none, and the contents are not written as null.
    have hread : decodeOption content.decode json = (content.decode json).map some := by
      cases json with
      | null => exact absurd rfl (hkeeps.ne_null hnull)
      | _ => rfl
    change decodeOption content.decode json = .ok (some v)
    rw [hread, hkeeps.read]
    rfl

/-! ### Lists and maps -/

theorem injective_of_read {α β ε : Type} {write : α → β} {read : β → Except ε α}
    (h : ∀ a, read (write a) = .ok a) : Function.Injective write := by
  intro a b heq
  have hread : Except.ok a = (.ok b : Except ε α) := by rw [← h a, heq, h b]
  exact Except.ok.inj hread

/-- The images of entries in another order are the images of the entries in that order. -/
theorem exists_perm_map_eq {α β : Type} {f : α → β} (hf : Function.Injective f) {images : List β}
    {entries : List α} (h : images.Perm (entries.map f)) :
    ∃ entries' : List α, entries'.Perm entries ∧ entries'.map f = images := by
  have hrange : images ∈ Set.range (List.map f) := by
    rw [Set.range_list_map]
    intro image himage
    obtain ⟨e, -, heq⟩ := List.mem_map.mp (h.mem_iff.mp himage)
    exact ⟨e, heq⟩
  obtain ⟨entries', rfl⟩ := hrange
  exact ⟨entries', (List.map_perm_map_iff hf).mp h, rfl⟩

section

variable {item : Schema} {written : item.Carrier → Json} (hitem : ∀ v, item.Keeps v (written v))

include hitem

theorem itemsToJson_map (vs : List item.Carrier) :
    Datum.itemsToJson (vs.map item.toDatum) = .ok (vs.map written) := by
  induction vs with
  | nil => rfl
  | cons v vs ih =>
    have hv : (item.toDatum v).toJson = .ok (written v) := (hitem v).written
    simp [Datum.itemsToJson, hv, ih, bind, Except.bind, pure, Except.pure]

theorem decodeItems_map (vs : List item.Carrier) : decodeItems item.decode (vs.map written) = .ok vs := by
  induction vs with
  | nil => rfl
  | cons v vs ih => simp [decodeItems, (hitem v).read, ih, bind, Except.bind, pure, Except.pure]

variable {κ : Type} (key : κ → Datum.Key) (name : κ → String) {readKey : String → Except Misread κ}

theorem entriesToJson_map (hkey : ∀ k, (key k).render = .ok (name k)) (entries : List (κ × item.Carrier)) :
    Datum.entriesToJson (entries.map fun e => (key e.1, item.toDatum e.2)) =
      .ok (entries.map (Prod.map name written)) := by
  induction entries with
  | nil => rfl
  | cons e entries ih =>
    have hv : (item.toDatum e.2).toJson = .ok (written e.2) := (hitem e.2).written
    simp [Datum.entriesToJson, hkey, hv, ih, Prod.map, bind, Except.bind, pure, Except.pure]

theorem decodeEntries_map (hread : ∀ k, readKey (name k) = .ok k) (entries : List (κ × item.Carrier)) :
    decodeEntries readKey item.decode (entries.map (Prod.map name written)) = .ok entries := by
  induction entries with
  | nil => rfl
  | cons e entries ih =>
    simp [decodeEntries, hread, (hitem e.2).read, ih, Prod.map, bind, Except.bind, pure, Except.pure]

variable [LT κ] [DecidableLT κ] [DecidableEq κ] [StrictTotal κ]

/-- The members of an object stand in the order of their names, which need not be that of the keys. -/
theorem decodeEntries_ofList (hread : ∀ k, readKey (name k) = .ok k) (m : SortedMap κ item.Carrier) :
    (decodeEntries readKey item.decode
      (SortedMap.ofList (m.toList.map (Prod.map name written))).toList).map SortedMap.ofList = .ok m := by
  have hname : Function.Injective name := injective_of_read hread
  have hwritten : Function.Injective written := injective_of_read fun v => (hitem v).read
  have hnodup : ((m.toList.map (Prod.map name written)).map (·.1)).Nodup := by
    have hnames : (m.keys.map name).Nodup := m.nodup_keys.map hname
    rw [SortedMap.keys, List.map_map] at hnames
    rw [List.map_map]
    exact hnames
  -- The object lists the same members by name, and so reads as the same entries in that order.
  obtain ⟨entries, hperm, hentries⟩ :=
    exists_perm_map_eq (hname.prodMap hwritten) (SortedMap.toList_ofList_perm hnodup)
  rw [← hentries, decodeEntries_map hitem name hread, Except.map, SortedMap.ofList_of_perm hperm]

end

theorem keeps_list {item : Schema} (hitem : ∀ v, ∃ json, item.Keeps v json) (vs : List item.Carrier) :
    ∃ json, (list item).Keeps vs json := by
  choose written hitem using hitem
  refine ⟨.array (vs.map written), ?_, ?_⟩
  · change (Datum.itemsToJson (vs.map item.toDatum)).map Json.array = _
    rw [itemsToJson_map hitem]
    rfl
  · exact decodeItems_map hitem vs

theorem keeps_dictionary {value : Schema} (hvalue : ∀ v, ∃ json, value.Keeps v json)
    (m : SortedMap String value.Carrier) : ∃ json, (dictionary value).Keeps m json := by
  choose written hvalue using hvalue
  refine ⟨.ofMembers (m.toList.map (Prod.map id written)), ?_, ?_⟩
  · have hentries := entriesToJson_map hvalue .text id (fun _ => rfl) m.toList
    change (Datum.entriesToJson (m.toList.map fun e => (.text e.1, value.toDatum e.2))).map Json.ofMembers = _
    rw [hentries]
    rfl
  · exact decodeEntries_ofList hvalue id (fun _ => rfl) m

theorem keeps_numbered {kind : IntegerKind} (hkind : kind.Exact) {value : Schema}
    (hvalue : ∀ v, ∃ json, value.Keeps v json) (m : SortedMap (Integer kind) value.Carrier) :
    ∃ json, (numbered kind value).Keeps m json := by
  choose written hvalue using hvalue
  refine ⟨.ofMembers (m.toList.map (Prod.map (fun i => toString i.val) written)), ?_, ?_⟩
  · have hentries := entriesToJson_map hvalue (fun i : Integer kind => .int i.val) _ (fun _ => rfl) m.toList
    change (Datum.entriesToJson (m.toList.map fun e => (.int e.1.val, value.toDatum e.2))).map
      Json.ofMembers = _
    rw [hentries]
    rfl
  · refine decodeEntries_ofList hvalue (fun i => toString i.val) (fun i => ?_) m
    exact decodeKey_toString i (hkind.range i).1 (hkind.range i).2

end Schema

/-! ### Values in a row -/

namespace Items

/-- The values of a row are written as JSON values and read back from them. -/
structure Keeps (items : Items) (v : items.Carrier) (values : List Json) : Prop where
  written : Datum.itemsToJson (items.toData v) = .ok values
  read : ∀ wanted length count, items.decode wanted length count values = .ok v
  ne_nil : values ≠ []

theorem keeps_pair {first second : Schema} {a : first.Carrier} {b : second.Carrier} {x y : Json}
    (hfirst : first.Keeps a x) (hsecond : second.Keeps b y) : (pair first second).Keeps (a, b) [x, y] where
  written := by
    have ha : (first.toDatum a).toJson = .ok x := hfirst.written
    have hb : (second.toDatum b).toJson = .ok y := hsecond.written
    change Datum.itemsToJson [first.toDatum a, second.toDatum b] = .ok [x, y]
    simp [Datum.itemsToJson, ha, hb, bind, Except.bind, pure, Except.pure]
  read wanted length count := by
    change decodeNext wanted count first.decode _ [x, y] = .ok (a, b)
    simp [decodeNext, decodeEnd, hfirst.read, hsecond.read, Except.map, bind, Except.bind, pure, Except.pure]
  ne_nil := List.cons_ne_nil _ _

theorem keeps_more {first : Schema} {rest : Items} {a : first.Carrier} {vs : rest.Carrier} {x : Json}
    {values : List Json} (hfirst : first.Keeps a x) (hrest : rest.Keeps vs values) :
    (more first rest).Keeps (a, vs) (x :: values) where
  written := by
    have ha : (first.toDatum a).toJson = .ok x := hfirst.written
    change Datum.itemsToJson (first.toDatum a :: rest.toData vs) = .ok (x :: values)
    simp [Datum.itemsToJson, ha, hrest.written, bind, Except.bind, pure, Except.pure]
  read wanted length count := by
    change decodeNext wanted count first.decode (rest.decode wanted length (count + 1)) (x :: values) =
      .ok (a, vs)
    simp [decodeNext, hfirst.read, hrest.read, bind, Except.bind, pure, Except.pure]
  ne_nil := List.cons_ne_nil _ _

theorem Keeps.tuple {items : Items} {v : items.Carrier} {values : List Json} (h : items.Keeps v values) :
    (Schema.tuple items).Keeps v (.array values) where
  written := by
    change (Datum.itemsToJson (items.toData v)).map Json.array = _
    rw [h.written]
    rfl
  read := h.read _ _ _

end Items

/-! ### Fields -/

namespace Fields

/-- The values of fields are written as members under the names of the fields, and read back from
whatever has these members. -/
structure Keeps (fields : Fields) (v : fields.Carrier) (members : List (String × Json)) : Prop where
  written : Datum.entriesToJson (fields.toEntries v) = .ok members
  names : members.map (·.1) = fields.names
  read : ∀ found, (∀ member ∈ members, SortedMap.lookup member.1 found = some member.2) →
    fields.ofMembers found = .ok v
  check : fields.names.Nodup → ∀ otherwise, ∀ member ∈ members, fields.check otherwise member = .ok ()

theorem keeps_nil : nil.Keeps () [] where
  written := rfl
  names := rfl
  read _ _ := rfl
  check _ _ _ hmember := by cases hmember

section

variable {name : String} {rest : Fields} {vs : rest.Carrier} {members : List (String × Json)}

/-- A field in front of others, with another name. -/
theorem Keeps.cons (hrest : rest.Keeps vs members) {fields : Fields} {v : fields.Carrier} {d : Datum}
    {json : Json} (hd : d.toJson = .ok json)
    (hentries : fields.toEntries v = (.text name, d) :: rest.toEntries vs)
    (hnames : fields.names = name :: rest.names)
    (hread : ∀ found, SortedMap.lookup name found = some json → rest.ofMembers found = .ok vs →
      fields.ofMembers found = .ok v)
    (hsame : ∀ otherwise, fields.check otherwise (name, json) = .ok ())
    (hother : ∀ otherwise member, member.1 ≠ name →
      fields.check otherwise member = rest.check otherwise member) :
    fields.Keeps v ((name, json) :: members) where
  written := by
    rw [hentries]
    simp [Datum.entriesToJson, Datum.Key.render, hd, hrest.written, bind, Except.bind, pure, Except.pure]
  names := by rw [hnames, ← hrest.names, List.map_cons]
  read found hfound := by
    have hvs := hrest.read found fun member hmember => hfound member (List.mem_cons_of_mem _ hmember)
    exact hread found (hfound _ List.mem_cons_self) hvs
  check hnodup otherwise member hmember := by
    obtain ⟨hfresh, hnodup⟩ := List.nodup_cons.mp (hnames ▸ hnodup)
    obtain rfl | hmember := List.mem_cons.mp hmember
    · exact hsame otherwise
    · have hne : member.1 ≠ name := fun heq => hfresh (heq ▸ hrest.names ▸ List.mem_map_of_mem hmember)
      rw [hother otherwise member hne]
      exact hrest.check hnodup otherwise member hmember

variable {content : Schema} {json : Json}

theorem keeps_required {v : content.Carrier} (hcontent : content.Keeps v json) (hrest : rest.Keeps vs members) :
    (required name content rest).Keeps (v, vs) ((name, json) :: members) := by
  refine hrest.cons hcontent.written rfl rfl (fun found hname hvs => ?_) (fun otherwise => ?_)
    fun _ _ hne => if_neg hne
  · simp [ofMembers, hname, hcontent.read, hvs, bind, Except.bind, pure, Except.pure]
    rfl
  · refine (if_pos rfl).trans ?_
    rw [hcontent.read]
    rfl

/-- An optional field is written like an option, and never left out. -/
theorem keeps_optional {v : Option content.Carrier} (hcontent : (Schema.option content).Keeps v json)
    (hrest : rest.Keeps vs members) : (optional name content rest).Keeps (v, vs) ((name, json) :: members) := by
  have hread : decodeOption content.decode json = .ok v := hcontent.read
  refine hrest.cons hcontent.written rfl rfl (fun found hname hvs => ?_) (fun otherwise => ?_)
    fun _ _ hne => if_neg hne
  · simp [ofMembers, hname, hread, hvs, bind, Except.bind, pure, Except.pure]
    rfl
  · refine (if_pos rfl).trans ?_
    rw [hread]
    rfl

end

theorem checkAll_eq_ok {check : String × Json → Except Misread Unit} {members : List (String × Json)}
    (h : ∀ member ∈ members, check member = .ok ()) : checkAll check members = .ok () := by
  induction members with
  | nil => rfl
  | cons member members ih =>
    have hrest := ih fun member' hmember => h member' (List.mem_cons_of_mem _ hmember)
    simp [checkAll, h member List.mem_cons_self, hrest, bind, Except.bind]

section

variable {fields : Fields} {v : fields.Carrier} {members : List (String × Json)} (h : fields.Keeps v members)
  (hnodup : fields.names.Nodup)

include h hnodup

theorem Keeps.get?_ofList {member : String × Json} :
    (SortedMap.ofList members).get? member.1 = some member.2 ↔ member ∈ members :=
  SortedMap.get?_ofList_eq_some_iff (h.names ▸ hnodup)

/-- Every member of the object of the members is the member of a field. -/
theorem Keeps.checkAll_object (otherwise : String → Except Misread Unit) :
    checkAll (fields.check otherwise) (SortedMap.ofList members).toList = .ok () := by
  refine checkAll_eq_ok fun member hmember => h.check hnodup otherwise member ?_
  exact (h.get?_ofList hnodup).mp (SortedMap.mem_toList_iff.mp hmember)

theorem Keeps.ofMembers_object : fields.ofMembers (SortedMap.ofList members).toList = .ok v :=
  h.read _ fun _ hmember => (h.get?_ofList hnodup).mpr hmember

omit hnodup in
theorem Keeps.object_written : Datum.toJson (.map (fields.toEntries v)) = .ok (.ofMembers members) := by
  rw [Datum.toJson, h.written]
  rfl

theorem Keeps.record (name : String) (strict : Bool) :
    (Schema.record name strict fields).Keeps v (.ofMembers members) where
  written := h.object_written
  read := by
    have hcheck := h.checkAll_object hnodup (checkOther strict fields.names)
    change (do checkAll (fields.check (checkOther strict fields.names)) (SortedMap.ofList members).toList
               fields.ofMembers (SortedMap.ofList members).toList) = Except.ok v
    rw [hcheck, h.ofMembers_object hnodup]
    rfl

end

end Fields

/-! ### Variants -/

namespace Variants

/-- The JSON value of a variant with the given name and contents. -/
def tagged (name : String) : Option Json → Json
  | none => .string name
  | some content => .object [(name, content)]

/-- A value of one of the variants is written under its name, with its contents if there are any, and
read back from there. -/
structure Keeps (variants : Variants) (v : variants.Carrier) (name : String) (content : Option Json) :
    Prop where
  written : (variants.toDatum v).toJson = .ok (tagged name content)
  read : ∀ choice known, variants.decode choice known name content = .ok v
  mem : name ∈ variants.names

theorem Keeps.choice {variants : Variants} {v : variants.Carrier} {name : String} {content : Option Json}
    (h : variants.Keeps v name content) (title : String) :
    (Schema.choice title variants).Keeps v (tagged name content) where
  written := h.written
  read := by
    cases content with
    | none => exact h.read _ _
    | some content => exact h.read _ _

/-- A value of a later variant, behind a variant with another name. -/
theorem Keeps.behind {rest : Variants} {v : rest.Carrier} {name' : String} {content : Option Json}
    (h : rest.Keeps v name' content) (variants : Variants) (later : rest.Carrier → variants.Carrier)
    {name : String} (hnames : variants.names = name :: rest.names) (hfresh : name ∉ rest.names)
    (hdatum : variants.toDatum (later v) = rest.toDatum v)
    (hread : ∀ choice known, name' ≠ name →
      variants.decode choice known name' content = (rest.decode choice known name' content).map later) :
    variants.Keeps (later v) name' content where
  written := hdatum ▸ h.written
  read choice known := by
    have hne : name' ≠ name := fun heq => hfresh (heq ▸ h.mem)
    rw [hread choice known hne, h.read]
    rfl
  mem := hnames ▸ List.mem_cons_of_mem _ h.mem

theorem toJson_tagged {name : String} {d : Datum} {json : Json} (h : d.toJson = .ok json) :
    Datum.toJson (.map [(.text name, d)]) = .ok (tagged name (some json)) := by
  simp [Datum.toJson, Datum.entriesToJson, Datum.Key.render, h, bind, Except.bind, pure, Except.pure,
    Except.map]
  rfl

section

variable {name : String} {rest : Variants} (hfresh : name ∉ rest.names)
  (hrest : ∀ v, ∃ name content, rest.Keeps v name content)

include hfresh hrest

theorem exists_keeps_bare (v : (bare name rest).Carrier) :
    ∃ name' content, (bare name rest).Keeps v name' content := by
  cases v with
  | inl v => exact ⟨name, none, rfl, fun _ _ => if_pos rfl, List.mem_cons_self⟩
  | inr v =>
    obtain ⟨name', content, h⟩ := hrest v
    refine ⟨name', content, ?_⟩
    exact h.behind (bare name rest) .inr rfl hfresh rfl fun _ _ hne => if_neg hne

theorem exists_keeps_single {content : Schema} (hcontent : ∀ v, ∃ json, content.Keeps v json)
    (v : (single name content rest).Carrier) :
    ∃ name' content', (single name content rest).Keeps v name' content' := by
  cases v with
  | inl v =>
    obtain ⟨json, hkeeps⟩ := hcontent v
    refine ⟨name, some json, toJson_tagged hkeeps.written, fun choice known => ?_, List.mem_cons_self⟩
    exact (if_pos rfl).trans (congrArg (Except.map Sum.inl) hkeeps.read)
  | inr v =>
    obtain ⟨name', content', h⟩ := hrest v
    refine ⟨name', content', ?_⟩
    exact h.behind (single name content rest) .inr rfl hfresh rfl fun _ _ hne => if_neg hne

theorem exists_keeps_tuple {items : Items} (hitems : ∀ v, ∃ values, items.Keeps v values)
    (v : (tuple name items rest).Carrier) :
    ∃ name' content, (tuple name items rest).Keeps v name' content := by
  cases v with
  | inl v =>
    obtain ⟨values, hkeeps⟩ := hitems v
    refine ⟨name, some (.array values), toJson_tagged hkeeps.tuple.written, fun choice known => ?_,
      List.mem_cons_self⟩
    refine (if_pos rfl).trans ?_
    -- An empty array would be read as null.
    cases values with
    | nil => exact absurd rfl hkeeps.ne_nil
    | cons value values => exact congrArg (Except.map Sum.inl) (hkeeps.read _ _ _)
  | inr v =>
    obtain ⟨name', content, h⟩ := hrest v
    refine ⟨name', content, ?_⟩
    exact h.behind (tuple name items rest) .inr rfl hfresh rfl fun _ _ hne => if_neg hne

theorem exists_keeps_fields {fields : Fields} (hfields : ∀ v, ∃ members, fields.Keeps v members)
    (hnodup : fields.names.Nodup) (v : (Variants.fields name fields rest).Carrier) :
    ∃ name' content, (Variants.fields name fields rest).Keeps v name' content := by
  cases v with
  | inl v =>
    obtain ⟨members, hkeeps⟩ := hfields v
    refine ⟨name, some (.ofMembers members), toJson_tagged hkeeps.object_written, fun choice known => ?_,
      List.mem_cons_self⟩
    have hcheck := hkeeps.checkAll_object hnodup (checkOther false fields.names)
    refine (if_pos rfl).trans ?_
    change (do checkAll (fields.check (checkOther false fields.names)) (SortedMap.ofList members).toList
               return Sum.inl (← fields.ofMembers (SortedMap.ofList members).toList)) = Except.ok (Sum.inl v)
    rw [hcheck, hkeeps.ofMembers_object hnodup]
    rfl
  | inr v =>
    obtain ⟨name', content, h⟩ := hrest v
    refine ⟨name', content, ?_⟩
    exact h.behind (Variants.fields name fields rest) .inr rfl hfresh rfl fun _ _ hne => if_neg hne

end

end Variants

/-! ### All types

The induction is on the type, with one lemma above for each way in which a type is made of others. -/

theorem Typed.decodeCharacter_singleton (c : Char) : decodeCharacter (.string (.singleton c)) = .ok c := by
  have hchars : (String.singleton c).toList = [c] := String.toList_singleton c
  rw [decodeCharacter, hchars]

mutual

/-- Every value of a type without loss is written as a JSON value and read back from it. -/
theorem Schema.exists_keeps (s : Schema) (h : s.Lossless) (v : s.Carrier) : ∃ json, s.Keeps v json :=
  match s with
  | .double => h.elim
  | .bool => ⟨.bool v, rfl, rfl⟩
  | .integer _ => ⟨.ofInt v.val, v.toJson_eq h, decodeInteger_of_inRange v.inRange⟩
  | .character => ⟨.string (.singleton v), rfl, decodeCharacter_singleton v⟩
  | .text => ⟨.string v, rfl, rfl⟩
  | .unit => ⟨.null, rfl, rfl⟩
  | .any => ⟨v, rfl, rfl⟩
  | .option content => Schema.keeps_option h.2 (content.exists_keeps h.1) v
  | .list item => Schema.keeps_list (item.exists_keeps h) v
  | .tuple items =>
    let ⟨values, hkeeps⟩ := items.exists_keeps h v
    ⟨.array values, hkeeps.tuple⟩
  | .dictionary value => Schema.keeps_dictionary (value.exists_keeps h) v
  | .numbered _ value => Schema.keeps_numbered h.1 (value.exists_keeps h.2) v
  | .record name strict fields =>
    let ⟨members, hkeeps⟩ := fields.exists_keeps h.1 v
    ⟨.ofMembers members, hkeeps.record h.2 name strict⟩
  | .choice title variants =>
    let ⟨name, content, hkeeps⟩ := variants.exists_keeps h.1 h.2 v
    ⟨Variants.tagged name content, hkeeps.choice title⟩

theorem Items.exists_keeps (items : Items) (h : items.Lossless) (v : items.Carrier) :
    ∃ values, items.Keeps v values :=
  match items, v with
  | .pair first second, (a, b) =>
    let ⟨x, ha⟩ := first.exists_keeps h.1 a
    let ⟨y, hb⟩ := second.exists_keeps h.2 b
    ⟨[x, y], Items.keeps_pair ha hb⟩
  | .more first rest, (a, vs) =>
    let ⟨x, ha⟩ := first.exists_keeps h.1 a
    let ⟨values, hvs⟩ := rest.exists_keeps h.2 vs
    ⟨x :: values, Items.keeps_more ha hvs⟩

theorem Fields.exists_keeps (fields : Fields) (h : fields.Lossless) (v : fields.Carrier) :
    ∃ members, fields.Keeps v members :=
  match fields, v with
  | .nil, _ => ⟨[], Fields.keeps_nil⟩
  | .required name content rest, (a, vs) =>
    let ⟨json, ha⟩ := content.exists_keeps h.1 a
    let ⟨members, hvs⟩ := rest.exists_keeps h.2 vs
    ⟨(name, json) :: members, Fields.keeps_required ha hvs⟩
  | .optional name content rest, (a, vs) =>
    let ⟨json, ha⟩ := Schema.keeps_option h.1.2 (content.exists_keeps h.1.1) a
    let ⟨members, hvs⟩ := rest.exists_keeps h.2 vs
    ⟨(name, json) :: members, Fields.keeps_optional ha hvs⟩

theorem Variants.exists_keeps (variants : Variants) (h : variants.Lossless) (hnodup : variants.names.Nodup)
    (v : variants.Carrier) : ∃ name content, variants.Keeps v name content :=
  match variants with
  | .nil => nomatch v
  | .bare _ rest =>
    let ⟨hfresh, hrest⟩ := List.nodup_cons.mp hnodup
    Variants.exists_keeps_bare hfresh (rest.exists_keeps h hrest) v
  | .single _ content rest =>
    let ⟨hfresh, hrest⟩ := List.nodup_cons.mp hnodup
    Variants.exists_keeps_single hfresh (rest.exists_keeps h.2 hrest) (content.exists_keeps h.1) v
  | .tuple _ items rest =>
    let ⟨hfresh, hrest⟩ := List.nodup_cons.mp hnodup
    Variants.exists_keeps_tuple hfresh (rest.exists_keeps h.2 hrest) (items.exists_keeps h.1) v
  | .fields _ content rest =>
    let ⟨hfresh, hrest⟩ := List.nodup_cons.mp hnodup
    Variants.exists_keeps_fields hfresh (rest.exists_keeps h.2 hrest) (content.exists_keeps h.1.1) h.1.2 v

end

end RequestScope
