import RequestScope.Json.Reader
import RequestScope.Proofs.Dictionary
import RequestScope.Proofs.Json.Records

/-!
# Names of submitted members

The names of an object are found by passing over its values, whatever these are. A record that is read
from an object has found each of its fields under one of these names: a text that is read ends where it
ends for the scanner, since the reader of strings is the scanner with more to remember.
-/

namespace RequestScope

theorem bind_eq_ok_iff {ε α β : Type} {x : Except ε α} {f : α → Except ε β} {b : β} :
    (x >>= f) = .ok b ↔ ∃ a, x = .ok a ∧ f a = .ok b := by
  cases x with
  | error fault => simp [bind, Except.bind]
  | ok a => simp [bind, Except.bind]

theorem eq_ok_of_toOption {ε α : Type} {x : Except ε α} {a : α} (h : x.toOption = some a) : x = .ok a := by
  cases x with
  | error fault => cases h
  | ok a' => exact congrArg Except.ok (Option.some.inj h)

theorem mapError_eq_ok_iff {ε ε' α : Type} {x : Except ε α} {f : ε → ε'} {a : α} :
    x.mapError f = .ok a ↔ x = .ok a := by
  cases x with
  | error fault => simp [Except.mapError]
  | ok a => simp [Except.mapError]

namespace Json

theorem stopAt_eq_ok_iff {α : Type} {x : Except Fault α} {a : α} : stopAt x = .ok a ↔ x = .ok a :=
  mapError_eq_ok_iff

/-! ### A string that is read is passed in the same way -/

/-- What the scanner of a string has to know of the state of its reader. Between the halves of a pair
the scanner is between characters. -/
def StringState.skipped : StringState → SkipState
  | .plain => .plain
  | .escape => .escape
  | .hex _ seen => .hex seen
  | .wantBackslash _ => .plain
  | .wantUnicode _ => .escape

theorem isSome_hexNumber? (digits : List UInt8) :
    (hexNumber? digits).isSome = digits.all fun b => (hexValue? b).isSome := by
  have hfold (value : Option Nat) :
      (digits.foldl (fun value b => do return (← value) * 16 + (← hexValue? b)) value).isSome =
        (value.isSome && digits.all fun b => (hexValue? b).isSome) := by
    induction digits generalizing value with
    | nil => simp
    | cons b digits ih =>
      rw [List.foldl_cons, ih, List.all_cons]
      cases value <;> cases hexValue? b <;> simp
  exact hfold (some 0)

theorem skipped_of_stepCode {lead : Option Nat} {code : Nat} {read read' : List UInt8}
    {state : StringState} (h : stepCode lead code read = .go state read') : state.skipped = .plain := by
  revert h
  fun_cases stepCode lead code read <;> intro h <;> cases h <;> rfl

theorem stepCode_ne_close (lead : Option Nat) (code : Nat) (read : List UInt8) :
    stepCode lead code read ≠ .close := by
  fun_cases stepCode lead code read <;> exact nofun

section

variable {state state' : StringState} {b : UInt8} {read read' : List UInt8}

theorem skipOctetsFrom_of_go (h : state.step b read = .go state' read') (rest : List UInt8)
    (p : Position) :
    skipOctetsFrom (b :: rest) p state.skipped = skipOctetsFrom rest (p.after b) state'.skipped := by
  cases state with
  | plain =>
    simp only [StringState.step] at h
    split_ifs at h with hquote hbackslash hcontrol
    · cases h
      simp [StringState.skipped, skipOctetsFrom, hquote, hbackslash]
    · cases h
      simp [StringState.skipped, skipOctetsFrom, hquote, hbackslash, hcontrol]
  | escape =>
    simp only [StringState.step] at h
    split_ifs at h with hunicode
    · cases h
      simp [StringState.skipped, skipOctetsFrom, hunicode]
    · split at h
      · rename_i octet hshort
        cases h
        simp [StringState.skipped, skipOctetsFrom, hunicode, hshort]
      · cases h
  | hex lead seen =>
    simp only [StringState.step] at h
    split_ifs at h with hfew
    · cases h
      simp [StringState.skipped, skipOctetsFrom, hfew]
    · split at h
      · rename_i code hcode
        have hsome : (hexNumber? (b :: seen)).isSome := by
          rw [isSome_hexNumber?, ← List.all_reverse, ← isSome_hexNumber?, hcode]
          rfl
        rw [skipped_of_stepCode h, StringState.skipped, skipOctetsFrom, if_neg hfew, if_pos hsome]
      · cases h
  | wantBackslash lead =>
    simp only [StringState.step] at h
    split_ifs at h with hbackslash
    cases h
    simp_all [StringState.skipped, skipOctetsFrom]
  | wantUnicode lead =>
    simp only [StringState.step] at h
    split_ifs at h with hunicode
    cases h
    simp_all [StringState.skipped, skipOctetsFrom]

theorem StringState.step_eq_close_iff : state.step b read = .close ↔ state = .plain ∧ b = 0x22 := by
  fun_cases StringState.step state b read <;> simp_all [stepCode_ne_close]

end

theorem skipOctetsFrom_of_readOctetsFrom {bytes : List UInt8} {p : Position} {state : StringState}
    {read octets : List UInt8} {after : Cursor} (h : readOctetsFrom bytes p state read = .ok (octets, after)) :
    skipOctetsFrom bytes p state.skipped = .ok after := by
  -- What has been read grows, but the scanner does not keep it; so only its state is carried along.
  induction bytes generalizing p state read with
  | nil => cases h
  | cons b rest ih =>
    rw [readOctetsFrom] at h
    cases hstep : state.step b read with
    | go state' read' =>
      rw [hstep] at h
      rw [skipOctetsFrom_of_go hstep]
      exact ih h
    | close =>
      rw [hstep] at h
      cases h
      obtain ⟨rfl, rfl⟩ := StringState.step_eq_close_iff.mp hstep
      rfl
    | refuse reason =>
      rw [hstep] at h
      cases h

namespace Cursor

theorem skipString_of_readString {c after : Cursor} {s : String} (h : c.readString = .ok (s, after)) :
    c.skipString = .ok after := by
  unfold readString at h
  cases hread : readOctetsFrom c.rest c.position .plain [] with
  | error fault =>
    rw [hread] at h
    cases h
  | ok found =>
    obtain ⟨octets, after'⟩ := found
    have hskip := skipOctetsFrom_of_readOctetsFrom hread
    rw [hread] at h
    simp only [bind, Except.bind] at h
    split at h
    · cases h
      exact hskip
    · cases h

/-- A text that is read as the value of a field is passed over in the same way. -/
theorem skipValue_of_readText {c after : Cursor} {s : String} (length : Nat)
    (h : c.readText = .ok (s, after)) : c.skipValue length = .ok after := by
  unfold readText at h
  cases hpeek : c.skipSpace.peek? with
  | none => simp [hpeek] at h
  | some b =>
    simp only [hpeek] at h
    split_ifs at h with hquote
    have hstart : c.skipSpace.skipValueStart b = .ok (none, after) := by
      rw [beq_iff_eq] at hquote
      subst hquote
      simp [skipValueStart, skipString_of_readString h, bind, Except.bind, pure, Except.pure]
    simp [skipValue, skipFrom, hpeek, hstart, bind, Except.bind]

/-- Passes over a value of which nothing is kept. -/
def passValue (length : Nat) (c : Cursor) : Except Fault (Unit × Cursor) := do
  return ((), ← c.skipValue length)

end Cursor

/-! ### The names of an object -/

/-- The names of the members of the object that the octets spell, its values passed over. -/
def objectNames (bytes : List UInt8) : Except Fault (List String) := do
  let c := (Cursor.start bytes).skipSpace
  if c.peek? = some 0x7b then
    let (members, c) ← readMembers (Cursor.passValue bytes.length) (bytes.length + 1) true .empty c.next
    c.finished
    return members.keys
  else throw (c.ahead .expectedValue)

namespace Slots

theorem find?_fill_of_ne {slots : Slots} {name other : String} (value : String) (h : other ≠ name) :
    (slots.fill name value).find? other = slots.find? other := by
  induction slots with
  | nil => rfl
  | cons slot slots ih =>
    rw [fill, find?] at *
    rw [List.map_cons]
    by_cases heq : slot.1 = name
    · have hne : ¬ name = other := fun heq => h heq.symm
      simp [heq, SortedMap.lookup, hne, ih, find?]
    · simp [heq, SortedMap.lookup, ih, find?]

theorem find?_ne_none_of_values {slots : Slots} {texts : List String} (h : slots.values = .ok texts)
    (name : String) : slots.find? name ≠ some none := by
  induction slots generalizing texts with
  | nil => simp [find?, SortedMap.lookup]
  | cons slot slots ih =>
    obtain ⟨field, _ | text⟩ := slot
    · cases h
    · obtain ⟨rest, hrest, -⟩ := bind_eq_ok_iff.mp h
      have hne := ih hrest
      rw [find?] at hne ⊢
      rw [SortedMap.lookup]
      split
      · simp
      · exact hne

end Slots

namespace Cursor

theorem skipSpace_of_peek? {c : Cursor} {b : UInt8} (h : c.peek? = some b) (hspace : isSpace b = false) :
    c.skipSpace = c := by
  obtain ⟨_ | ⟨b', rest⟩, p⟩ := c
  · cases h
  · cases h
    simp [skipSpace, skipWhile, skipWhileFrom, hspace]

theorem closeObject_of_nextMember {first : Bool} {c after : Cursor}
    (h : c.nextMember first = .ok (false, after)) : after.closeObject = .ok after.next := by
  have hbrace : after.peek? = some 0x7d := by
    revert h
    fun_cases nextMember first c with
    | case2 start b hpeek hclose =>
      intro h
      obtain rfl : start = after := (Prod.mk.inj (Except.ok.inj h)).2
      rw [hpeek, beq_iff_eq.mp hclose]
    | _ => exact nofun
  have hskip : after.skipSpace = after := skipSpace_of_peek? hbrace rfl
  simp [closeObject, hskip, hbrace]

end Cursor

section

variable {length fuel : Nat} {first : Bool} {slots : Slots} {c after : Cursor} {values : List String}

/-- Where the slots of a record are filled, the object is closed, or another member follows: its name is
read, its value could be passed over, and no other slot is touched. -/
theorem readSlots_cases (h : readSlots length (fuel + 1) first slots c = .ok (values, after)) :
    (c.nextMember first = .ok (false, after) ∧ slots.values = .ok values) ∨
    ∃ name start middle colon behind slots',
      c.nextMember first = .ok (true, start) ∧ start.next.readString = .ok (name, middle) ∧
      middle.colon = .ok colon ∧ colon.skipValue length = .ok behind ∧
      (∀ other, other ≠ name → slots'.find? other = slots.find? other) ∧
      readSlots length fuel false slots' behind = .ok (values, after) := by
  rw [readSlots] at h
  obtain ⟨⟨more, start⟩, hnext, h⟩ := bind_eq_ok_iff.mp h
  replace hnext := stopAt_eq_ok_iff.mp hnext
  cases more with
  | false =>
    cases hvalues : slots.values with
    | error missing =>
      simp only [hvalues] at h
      cases h
    | ok values' =>
      simp only [hvalues] at h
      cases h
      exact .inl ⟨hnext, rfl⟩
  | true =>
    obtain ⟨⟨name, middle⟩, hname, h⟩ := bind_eq_ok_iff.mp h
    replace hname := stopAt_eq_ok_iff.mp hname
    right
    cases hslot : slots.find? name with
    | none =>
      simp only [hslot] at h
      obtain ⟨behind, hvalue, h⟩ := bind_eq_ok_iff.mp h
      obtain ⟨colon, hcolon, hskip⟩ := bind_eq_ok_iff.mp (stopAt_eq_ok_iff.mp hvalue)
      exact ⟨name, start, middle, colon, behind, slots, hnext, hname, hcolon, hskip, fun _ _ => rfl, h⟩
    | some text? =>
      cases text? with
      | none =>
        simp only [hslot] at h
        obtain ⟨⟨text, behind⟩, hvalue, h⟩ := bind_eq_ok_iff.mp h
        obtain ⟨colon, hcolon, hread⟩ := bind_eq_ok_iff.mp (stopAt_eq_ok_iff.mp hvalue)
        exact ⟨name, start, middle, colon, behind, _, hnext, hname, hcolon,
          Cursor.skipValue_of_readText length hread, fun _ hne => Slots.find?_fill_of_ne text hne, h⟩
      | some text =>
        simp only [hslot] at h
        cases h

/-- The names found so far are among the names of the object, and so are the slots that were empty. -/
theorem readMembers_of_readSlots (read : Dictionary Unit)
    (h : readSlots length fuel first slots c = .ok (values, after)) :
    ∃ members, readMembers (Cursor.passValue length) fuel first read c = .ok (members, after.next) ∧
      after.closeObject = .ok after.next ∧ (∀ name ∈ read.keys, name ∈ members.keys) ∧
      ∀ name, slots.find? name = some none → name ∈ members.keys := by
  induction fuel generalizing first slots c read with
  | zero => cases h
  | succ fuel ih =>
    rw [readMembers]
    obtain ⟨hnext, hvalues⟩ | ⟨name, start, middle, colon, behind, slots', hnext, hname, hcolon, hskip,
      hothers, h⟩ := readSlots_cases h
    · refine ⟨read, ?_, Cursor.closeObject_of_nextMember hnext, fun _ hname => hname, fun name hslot => ?_⟩
      · simp [hnext, bind, Except.bind, pure, Except.pure]
      · exact absurd hslot (Slots.find?_ne_none_of_values hvalues name)
    · obtain ⟨members, hmembers, hclose, hread, hslots⟩ := ih (read.insert name ()) h
      have hnames : ∀ other, other ∈ read.keys ∨ other = name → other ∈ members.keys := by
        intro other hother
        apply hread
        rw [SortedMap.mem_keys_iff, SortedMap.get?_insert]
        split
        · exact ⟨(), rfl⟩
        · rename_i hne
          exact SortedMap.mem_keys_iff.mp (hother.resolve_right fun heq => hne heq.symm)
      refine ⟨members, ?_, hclose, fun other hother => hnames other (.inl hother), fun other hslot => ?_⟩
      · simp only [hnext, hname, hcolon, Cursor.passValue, hskip, bind, Except.bind, pure, Except.pure]
        exact hmembers
      · by_cases heq : other = name
        · exact hnames other (.inr heq)
        · exact hslots other ((hothers other heq).trans hslot)

end

theorem closeRecord_eq_ok {fields : Except Stop (List String × Cursor)}
    {close : Cursor → Except (Malformed × Cursor) Cursor} {values : List String} {c : Cursor}
    (h : closeRecord fields close = .ok (values, c)) :
    ∃ after, fields = .ok (values, after) ∧ close after = .ok c := by
  unfold closeRecord at h
  split at h
  · rename_i values' after
    split at h
    · rename_i c' hclose
      cases h
      exact ⟨after, rfl, hclose⟩
    · cases h
  · cases h
  · split at h <;> cases h

/-- Every field of a record that is read from an object is the name of a member of that object. -/
theorem RecordShape.objectNames_of_parse {shape : RecordShape} {bytes : List UInt8}
    {values : List String} (h : shape.parse bytes = .ok values)
    (hobject : (Cursor.start bytes).skipSpace.peek? = some 0x7b) :
    ∃ names, objectNames bytes = .ok names ∧ ∀ field ∈ shape.fields, field ∈ names := by
  obtain ⟨⟨values', c⟩, hread, h⟩ := bind_eq_ok_iff.mp h
  obtain ⟨_, hfinished, -⟩ := bind_eq_ok_iff.mp h
  have hlist : ((0x7b : UInt8) == 0x5b) = false := by decide
  have hbrace : ((0x7b : UInt8) == 0x7b) = true := by decide
  simp only [read, hobject, hlist, hbrace, if_true, Bool.false_eq_true, if_false] at hread
  obtain ⟨after, hslots, hclosed⟩ := closeRecord_eq_ok hread
  obtain ⟨members, hmembers, hclose, -, hfields⟩ := readMembers_of_readSlots .empty hslots
  obtain rfl : after.next = c := Except.ok.inj (hclose.symm.trans hclosed)
  refine ⟨members.keys, ?_, fun field hfield => hfields field ?_⟩
  · change readMembers (Cursor.passValue bytes.length) (bytes.length + 1) true .empty
      (Cursor.start bytes).skipSpace.next = _ at hmembers
    simp [objectNames, hobject, hmembers, hfinished, bind, Except.bind, pure, Except.pure]
  · rw [← Slots.ofRead_nil fun _ => ""]
    exact Slots.find?_ofRead _ hfield List.not_mem_nil

end Json

end RequestScope
