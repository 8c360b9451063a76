import RequestScope.Json.Record
import RequestScope.Proofs.Json.Strings

/-!
# Records read back

An object of texts is read back by the record whose fields are its members, in whatever order the
members stand. Each member that is read fills the slot of its field and leaves the other slots as
they are.
-/

namespace RequestScope.Json

open Text.Utf8 (octets)

/-! ### Slots -/

namespace Slots

/-- The slots of fields when some of them have been read. -/
def ofRead (fields : List String) (text : String → String) (read : List String) : Slots :=
  fields.map fun name => (name, if name ∈ read then some (text name) else none)

variable {fields : List String} (text : String → String) {read : List String}

theorem ofRead_nil : ofRead fields text [] = fields.map (·, none) := by
  simp [ofRead]

theorem find?_ofRead {name : String} (hfield : name ∈ fields) (hread : name ∉ read) :
    (ofRead fields text read).find? name = some none := by
  rw [ofRead, find?]
  induction fields with
  | nil => cases hfield
  | cons field fields ih =>
    rw [List.map_cons, SortedMap.lookup]
    by_cases heq : field = name
    · rw [if_pos heq, heq, if_neg hread]
    · rw [if_neg heq]
      exact ih ((List.mem_cons.mp hfield).resolve_left fun h => heq h.symm)

theorem fill_ofRead (name : String) :
    (ofRead fields text read).fill name (text name) = ofRead fields text (name :: read) := by
  rw [ofRead, fill, List.map_map, ofRead]
  refine List.map_congr_left fun field _ => ?_
  by_cases heq : field = name
  · simp [heq]
  · simp [heq]

theorem values_ofRead (h : ∀ name ∈ fields, name ∈ read) :
    (ofRead fields text read).values = .ok (fields.map text) := by
  induction fields with
  | nil => rfl
  | cons field fields ih =>
    have hrest := ih fun name hname => h name (List.mem_cons_of_mem _ hname)
    have hfield : ofRead (field :: fields) text read =
        (field, some (text field)) :: ofRead fields text read := by
      rw [ofRead, List.map_cons, if_pos (h field List.mem_cons_self), ofRead]
    rw [hfield, values, hrest]
    rfl

end Slots

/-! ### Members -/

/-- The members of an object of texts. -/
def textMembers (text : String → String) (names : List String) : List (String × Json) :=
  names.map fun name => (name, .string (text name))

theorem textMembers_cons (text : String → String) (name : String) (names : List String) :
    textMembers text (name :: names) = (name, .string (text name)) :: textMembers text names :=
  List.map_cons

theorem octets_renderMember (name s : String) :
    octets (renderMember (name, .string s)) =
      octets (renderString name) ++ 0x3a :: octets (renderString s) := by
  rw [renderMember, renderChars, Text.Utf8.octets_append, Text.Utf8.octets_cons]
  rfl

theorem octets_renderMembers_cons (member : String × Json) (members : List (String × Json)) :
    octets (renderMembers (member :: members)) =
      0x2c :: (octets (renderMember member) ++ octets (renderMembers members)) := by
  rw [renderMembers, List.cons_append, Text.Utf8.octets_cons, Text.Utf8.octets_append]
  rfl

theorem length_le_renderMembers (members : List (String × Json)) :
    members.length ≤ (octets (renderMembers members)).length := by
  induction members with
  | nil => exact Nat.zero_le _
  | cons member members ih =>
    rw [octets_renderMembers_cons, List.length_cons, List.length_cons, List.length_append]
    omega

namespace Cursor

variable (s : String) (rest : List UInt8) (p : Position)

theorem nextMember_first :
    nextMember true ⟨octets (renderString s) ++ rest, p⟩ =
      .ok (true, ⟨octets (renderString s) ++ rest, p⟩) := by
  rw [octets_renderString]
  rfl

theorem nextMember_comma :
    nextMember false ⟨0x2c :: (octets (renderString s) ++ rest), p⟩ =
      .ok (true, ⟨octets (renderString s) ++ rest, p.after 0x2c⟩) := by
  rw [octets_renderString]
  rfl

theorem readText_renderString :
    readText ⟨octets (renderString s) ++ rest, p⟩ =
      .ok (s, ⟨rest, p.behind (octets (renderString s))⟩) := by
  rw [← readString_renderString, octets_renderString]
  rfl

end Cursor

/-! ### Reading members into slots -/

section

variable (length fuel : Nat) {rest : List UInt8} {p : Position}

/-- A member whose name is the next thing to be read fills the slot of its field. -/
theorem readSlots_member {first : Bool} {slots : Slots} {c : Cursor} {name s : String}
    (hslot : slots.find? name = some none)
    (hnext : c.nextMember first = .ok (true, ⟨octets (renderMember (name, .string s)) ++ rest, p⟩)) :
    ∃ q, readSlots length (fuel + 1) first slots c =
      readSlots length fuel false (slots.fill name s) ⟨rest, q⟩ := by
  rw [octets_renderMember, List.append_assoc, List.cons_append] at hnext
  let q := (p.behind (octets (renderString name))).after 0x3a
  have hvalue : (do (← Cursor.colon ⟨0x3a :: (octets (renderString s) ++ rest),
      p.behind (octets (renderString name))⟩).readText) =
      .ok (s, ⟨rest, q.behind (octets (renderString s))⟩) :=
    Cursor.readText_renderString s rest q
  refine ⟨q.behind (octets (renderString s)), ?_⟩
  rw [readSlots, hnext]
  simp only [stopAt, Except.mapError, bind, Except.bind, readString_renderString, hslot] at hvalue ⊢
  rw [hvalue]

/-- At the closing brace all fields have been read. -/
theorem readSlots_brace {first : Bool} {slots : Slots} {values : List String}
    (hvalues : slots.values = .ok values) :
    readSlots length (fuel + 1) first slots ⟨0x7d :: rest, p⟩ = .ok (values, ⟨0x7d :: rest, p⟩) := by
  have hnext : Cursor.nextMember first ⟨0x7d :: rest, p⟩ = .ok (false, ⟨0x7d :: rest, p⟩) := rfl
  rw [readSlots, hnext]
  simp only [stopAt, Except.mapError, bind, Except.bind, hvalues]
  rfl

variable {fields : List String} {text : String → String}

/-- The members behind the first one fill the slots that are left, as long as there is fuel for each
of them and for the closing brace. -/
theorem readSlots_renderMembers {names read : List String} (hfuel : names.length < fuel)
    (hnodup : names.Nodup) (hnames : ∀ name ∈ names, name ∈ fields ∧ name ∉ read)
    (hfields : ∀ name ∈ fields, name ∈ read ∨ name ∈ names) :
    ∃ q, readSlots length fuel false (.ofRead fields text read)
        ⟨octets (renderMembers (textMembers text names)) ++ rest, p⟩ =
      .ok (fields.map text, ⟨0x7d :: rest, q⟩) := by
  -- What was read and what is still to come make up the fields at every step.
  induction names generalizing fuel read p with
  | nil =>
    obtain ⟨fuel, rfl⟩ := Nat.exists_eq_add_one_of_ne_zero (Nat.ne_of_gt hfuel)
    have hall : ∀ name ∈ fields, name ∈ read := fun name hname =>
      (hfields name hname).resolve_right List.not_mem_nil
    exact ⟨p, readSlots_brace length fuel (Slots.values_ofRead text hall)⟩
  | cons name names ih =>
    obtain ⟨fuel, rfl⟩ := Nat.exists_eq_add_one_of_ne_zero (Nat.ne_of_gt (Nat.zero_lt_of_lt hfuel))
    obtain ⟨hfresh, hnodup⟩ := List.nodup_cons.mp hnodup
    obtain ⟨hfield, hunread⟩ := hnames name List.mem_cons_self
    have hmember := octets_renderMember name (text name)
    have hnext : Cursor.nextMember false
        ⟨octets (renderMembers (textMembers text (name :: names))) ++ rest, p⟩ =
        .ok (true, ⟨octets (renderMember (name, .string (text name))) ++
          (octets (renderMembers (textMembers text names)) ++ rest), p.after 0x2c⟩) := by
      rw [textMembers_cons, octets_renderMembers_cons, hmember, List.cons_append,
        List.append_assoc, List.append_assoc]
      exact Cursor.nextMember_comma name _ p
    obtain ⟨q, hread⟩ := readSlots_member length fuel
      (Slots.find?_ofRead text hfield hunread) hnext
    rw [hread, Slots.fill_ofRead]
    refine ih fuel (Nat.lt_of_succ_lt_succ hfuel) hnodup (fun other hother => ?_) fun other hother => ?_
    · refine ⟨(hnames other (List.mem_cons_of_mem _ hother)).1, fun hmem => ?_⟩
      obtain rfl | hmem := List.mem_cons.mp hmem
      · exact hfresh hother
      · exact (hnames other (List.mem_cons_of_mem _ hother)).2 hmem
    · obtain hmem | hmem := hfields other hother
      · exact .inl (List.mem_cons_of_mem _ hmem)
      · obtain rfl | hmem := List.mem_cons.mp hmem
        · exact .inl List.mem_cons_self
        · exact .inr hmem

end

/-! ### A whole record -/

/-- What stands behind the opening brace of an object. -/
def objectTail : List (String × Json) → List UInt8
  | [] => [0x7d]
  | member :: members => octets (renderMember member) ++ octets (renderMembers members)

theorem octets_renderChars_object (members : List (String × Json)) :
    octets (renderChars (.object members)) = 0x7b :: objectTail members := by
  cases members with
  | nil => rfl
  | cons member members =>
    rw [renderChars, List.cons_append, Text.Utf8.octets_cons, Text.Utf8.octets_append, objectTail]
    rfl

theorem length_le_objectTail (members : List (String × Json)) :
    members.length ≤ (objectTail members).length + 1 := by
  cases members with
  | nil => exact Nat.zero_le _
  | cons member members =>
    have := length_le_renderMembers members
    rw [objectTail, List.length_append, List.length_cons]
    omega

variable {fields names : List String} (text : String → String)

/-- Behind the opening brace, the members fill all slots. -/
theorem readSlots_objectTail (length fuel : Nat) (hfuel : names.length < fuel)
    (hperm : names.Perm fields) (hnodup : fields.Nodup) (p : Position) :
    ∃ q, readSlots length fuel true (fields.map (·, none)) ⟨objectTail (textMembers text names), p⟩ =
      .ok (fields.map text, ⟨[0x7d], q⟩) := by
  obtain ⟨fuel, rfl⟩ := Nat.exists_eq_add_one_of_ne_zero (Nat.ne_of_gt (Nat.zero_lt_of_lt hfuel))
  have hempty : fields.map (·, none) = Slots.ofRead fields text [] := (Slots.ofRead_nil text).symm
  rw [hempty]
  cases names with
  | nil =>
    obtain rfl := hperm.nil_eq
    exact ⟨p, readSlots_brace length fuel rfl⟩
  | cons name names =>
    obtain ⟨hfresh, htail⟩ := List.nodup_cons.mp (hperm.nodup_iff.mpr hnodup)
    have hnext : Cursor.nextMember true ⟨objectTail (textMembers text (name :: names)), p⟩ =
        .ok (true, ⟨octets (renderMember (name, .string (text name))) ++
          (octets (renderMembers (textMembers text names)) ++ []), p⟩) := by
      rw [textMembers_cons, objectTail, octets_renderMember, List.append_nil, List.append_assoc]
      exact Cursor.nextMember_first name _ p
    have hslot := Slots.find?_ofRead text (hperm.mem_iff.mp List.mem_cons_self) List.not_mem_nil
    obtain ⟨q, hread⟩ := readSlots_member length fuel hslot hnext
    rw [hread, Slots.fill_ofRead]
    refine readSlots_renderMembers length fuel (Nat.lt_of_succ_lt_succ hfuel) htail
      (fun other hother => ⟨hperm.mem_iff.mp (List.mem_cons_of_mem _ hother), fun hmem => ?_⟩)
      fun other hother => ?_
    · exact hfresh (List.mem_singleton.mp hmem ▸ hother)
    · obtain rfl | hmem := List.mem_cons.mp (hperm.mem_iff.mpr hother)
      · exact .inl List.mem_cons_self
      · exact .inr hmem

theorem RecordShape.read_brace (shape : RecordShape) (rest : List UInt8) (p : Position) :
    shape.read ⟨0x7b :: rest, p⟩ =
      closeRecord (readSlots (rest.length + 1) (rest.length + 2) true (shape.fields.map (·, none))
        ⟨rest, p.after 0x7b⟩) Cursor.closeObject := rfl

/-- The octets of an object of texts whose members are the fields of a record, in some order, spell
the values of the fields. -/
theorem RecordShape.parse_render {shape : RecordShape} (hperm : names.Perm shape.fields)
    (hnodup : shape.fields.Nodup) :
    shape.parse (Text.Utf8.encode (render (.object (textMembers text names)))) =
      .ok (shape.fields.map text) := by
  have hlength := length_le_objectTail (textMembers text names)
  rw [textMembers, List.length_map, ← textMembers] at hlength
  obtain ⟨q, hslots⟩ := readSlots_objectTail text ((objectTail (textMembers text names)).length + 1)
    ((objectTail (textMembers text names)).length + 2) (by omega) hperm hnodup (Position.after ⟨1, 0⟩ 0x7b)
  rw [parse, render, Text.Utf8.encode_ofList, octets_renderChars_object, Cursor.start, read_brace, hslots]
  rfl

end RequestScope.Json
