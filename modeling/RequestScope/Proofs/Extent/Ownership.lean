import RequestScope.Proofs.Extent.Confinement

/-!
# What a session can reach

A program names contexts only through the current one, the one lent to it and its registers, so a
session that starts with nothing can only come to hold handles of cells that it has made itself.
`Private` says what follows for a computation in a call chain: it reads the cells of its owner and
no others, it changes the cells of its owner and no others, and whatever it leaves behind holds
handles of its owner and no others. A session is one with the kin that has all its tasks and all cells
of its owner, under all names there are; so every poll is private, since polls keep to names and kin.
-/

namespace RequestScope

variable {ε ρ α β : Type}

/-! ### Handles that are held -/

def Binding.Holds (binding : Binding) (h : Handle) : Prop := binding = .held (some h)

/-- Whether a future has a handle. Programs have none. -/
def Future.Holds : Future ε ρ → Handle → Prop
  | .ready _, _ => False
  | .ended _, _ => False
  | .within binding body _, h => binding.Holds h ∨ body.Holds h
  | .caught body _, h => body.Holds h
  | .joined left right _, h => left.Holds h ∨ right.Holds h
  | .awaiting _ _, _ => False

def Progress.Holds : Progress ε ρ → Handle → Prop
  | .running future, h => future.Holds h
  | .ended _, _ => False

/-- Whether there is a handle in a register, in the binding of a wrapped program or in a task. -/
def Session.Holds (s : Session ε ρ) (h : Handle) : Prop :=
  (∃ name, s.registers.get? name = some h) ∨
    (∃ name wrapped, s.wraps.get? name = some wrapped ∧ wrapped.1.Holds h) ∨
    ∃ progress ∈ s.tasks, progress.Holds h

def Process.Holds (p : Process ε ρ) (h : Handle) : Prop := p.root.Holds h ∨ p.session.Holds h

/-- Whether a call chain passes through the extent of a context, or one is lent there. -/
def CallChain.Holds (chain : CallChain) (h : Handle) : Prop :=
  some h ∈ chain.extents ∨ h ∈ chain.lent

def Poll.Holds {m : Mode} : Poll ε ρ m → Handle → Prop
  | .done _, _ => False
  | .pending future, h => future.Holds h

def PairPoll.Holds : PairPoll ε ρ → Handle → Prop
  | .waiting left right, h => left.Holds h ∨ right.Holds h
  | _, _ => False

/-- All that is held has one owner. -/
def OwnedBy (id : Nat) (holds : Handle → Prop) : Prop := ∀ h, holds h → h.owner = id

theorem OwnedBy.none (id : Nat) : OwnedBy id fun _ => False := fun _ hholds => hholds.elim

theorem OwnedBy.ready {id : Nat} (program : Program ε ρ .async) :
    OwnedBy id (Future.ready program).Holds := .none id

/-- A session that holds handles of its own alone. -/
structure Session.Sound (id : Nat) (s : Session ε ρ) : Prop where
  id_eq : s.id = id
  owned : OwnedBy id s.Holds

namespace Session.Sound

variable {id : Nat} {s : Session ε ρ}

theorem of_task (hsound : s.Sound id) {progress : Progress ε ρ} (hmem : progress ∈ s.tasks) :
    OwnedBy id progress.Holds :=
  fun h hholds => hsound.owned h (.inr (.inr ⟨progress, hmem, hholds⟩))

theorem withTasks (hsound : s.Sound id) {tasks : List (Progress ε ρ)}
    (htasks : ∀ progress ∈ tasks, OwnedBy id progress.Holds) (named : Dictionary Nat) :
    ({ s with tasks, named } : Session ε ρ).Sound id := by
  refine ⟨hsound.id_eq, ?_⟩
  rintro h (hholds | hholds | ⟨progress, hmem, hholds⟩)
  · exact hsound.owned h (.inl hholds)
  · exact hsound.owned h (.inr (.inl hholds))
  · exact htasks progress hmem h hholds

end Session.Sound

/-! ### Owners and kin -/

/-- All tasks of a session, and all cells of an owner. -/
def Kin.ofOwner (id : Nat) : Kin := ⟨Set.univ, {h | h.owner = id}⟩

/-- There is no name that a program could not use. -/
theorem Program.among_univ {m : Mode} (program : Program ε ρ m) : program.Among Set.univ := by
  have htarget (target : Target) : target.Among Set.univ := by
    cases target with
    | register name => exact Set.mem_univ name
    | _ => trivial
  induction program with
  | ret value => trivial
  | panic text => trivial
  | emit event next ih => exact ih
  | access target change next ih => exact ⟨htarget target, ih⟩
  | hold target register next ih => exact ⟨htarget target, trivial, ih⟩
  | create register entries next ih => exact ⟨trivial, ih⟩
  | shares target other next ih => exact ⟨htarget target, htarget other, ih⟩
  | withCurrent body next ihbody ih => exact ⟨ihbody, ih⟩
  | runSync target body next ihbody ih => exact ⟨htarget target, ihbody, ih⟩
  | catchSync body next ihbody ih => exact ⟨ihbody, ih⟩
  | run target body next ihbody ih => exact ⟨htarget target, ihbody, ih⟩
  | catchPanic body next ihbody ih => exact ⟨ihbody, ih⟩
  | wrap name body next ihbody ih => exact ⟨trivial, ihbody, ih⟩
  | awaitWrapped name next ih => exact ⟨trivial, ih⟩
  | spawn name wrapped body next ihbody ih => exact ⟨trivial, ihbody, ih⟩
  | awaitTask name next ih => exact ⟨trivial, ih⟩
  | pause next ih => exact ih
  | join left right next ihleft ihright ih => exact ⟨ihleft, ihright, ih⟩
  | abandon target polls body next ihbody ih => exact ⟨htarget target, ihbody, ih⟩

section

variable {id : Nat}

theorem Kin.grown_ofOwner {s s' : Session ε ρ} (hid : s.id = id) :
    (Kin.ofOwner id).grown s s' = Kin.ofOwner id := by
  refine Kin.ext (Set.univ_union _) (Set.union_eq_self_of_subset_right fun h hmade => ?_)
  exact hmade.1.trans hid

theorem CallChain.of_ofOwner {chain : CallChain} (hchain : OwnedBy id chain.Holds) :
    chain.Of (.ofOwner id) := by
  refine ⟨fun h hcurrent => hchain h (.inl ?_), fun h hlent => hchain h (.inr hlent)⟩
  exact List.mem_of_head? (Option.join_eq_some_iff.mp hcurrent)

theorem Future.of_ofOwner_iff {future : Future ε ρ} :
    future.Of Set.univ (.ofOwner id) ↔ OwnedBy id future.Holds := by
  induction future with
  | ready program => exact ⟨fun _ => .none id, fun _ => program.among_univ⟩
  | ended value => exact ⟨fun _ => .none id, fun _ => trivial⟩
  | within binding body next ih =>
    constructor
    · rintro ⟨hbinding, hbody, -⟩ h hholds
      exact hholds.elim (hbinding h) (ih.mp hbody h)
    · intro howned
      refine ⟨fun h hholds => howned h (.inl hholds), ih.mpr fun h hholds => howned h (.inr hholds), ?_⟩
      exact fun value => (next value).among_univ
  | caught body next ih =>
    exact ⟨fun h => ih.mp h.1, fun howned => ⟨ih.mpr howned, fun exit => (next exit).among_univ⟩⟩
  | joined left right next ihleft ihright =>
    constructor
    · rintro ⟨hleft, hright, -⟩ h hholds
      exact hholds.elim (ihleft.mp hleft h) (ihright.mp hright h)
    · intro howned
      have hleft : OwnedBy id left.Holds := fun h hholds => howned h (.inl hholds)
      have hright : OwnedBy id right.Holds := fun h hholds => howned h (.inr hholds)
      exact ⟨ihleft.mpr hleft, ihright.mpr hright, fun a b => (next a b).among_univ⟩
  | awaiting task next =>
    exact ⟨fun _ => .none id, fun _ => ⟨trivial, fun exit => (next exit).among_univ⟩⟩

theorem Progress.of_ofOwner_iff {progress : Progress ε ρ} :
    progress.Of Set.univ (.ofOwner id) ↔ OwnedBy id progress.Holds := by
  cases progress with
  | running future => exact Future.of_ofOwner_iff
  | ended exit => exact ⟨fun _ => .none id, fun _ => trivial⟩

theorem Session.keeps_ofOwner_iff {s : Session ε ρ} :
    s.Keeps Set.univ (.ofOwner id) ↔ OwnedBy id s.Holds := by
  constructor
  · rintro hkeeps h (⟨name, hget⟩ | ⟨name, ⟨binding, body⟩, hget, hholds⟩ | ⟨progress, hmem, hholds⟩)
    · exact hkeeps.registers name trivial h hget
    · exact (hkeeps.wraps name trivial binding body hget).1 h hholds
    · obtain ⟨task, htask⟩ := List.mem_iff_getElem?.mp hmem
      exact Progress.of_ofOwner_iff.mp (hkeeps.tasks task trivial progress htask) h hholds
  · intro howned
    refine ⟨fun name _ h hget => howned h (.inl ⟨name, hget⟩), fun name _ binding body hget => ?_,
      fun _ _ _ _ => trivial, fun task _ progress hget => ?_⟩
    · exact ⟨fun h hholds => howned h (.inr (.inl ⟨name, _, hget, hholds⟩)), body.among_univ⟩
    · refine Progress.of_ofOwner_iff.mpr fun h hholds => howned h (.inr (.inr ⟨progress, ?_, hholds⟩))
      exact List.mem_of_getElem? hget

end

/-! ### Private computations -/

/-- The cells of an owner are the same. -/
def Heap.AgreeOn (id : Nat) (heap heap' : Heap) : Prop :=
  ∀ h, h.owner = id → heap.read h = heap'.read h

theorem Heap.AgreeOn.refl (id : Nat) (heap : Heap) : heap.AgreeOn id heap := fun _ _ => rfl

/-- The cells of all other owners are the same. -/
def Heap.AgreeOff (id : Nat) (heap heap' : Heap) : Prop :=
  ∀ h, h.owner ≠ id → heap.read h = heap'.read h

/-- Two scenes with the same session, which has only what is its own, and the same cells of its
owner. -/
structure Alike (id : Nat) (x y : Scene ε ρ) : Prop where
  session_eq : x.session = y.session
  sound : x.session.Sound id
  agree : x.heap.AgreeOn id y.heap

namespace Alike

variable {id : Nat} {x y : Scene ε ρ}

theorem kin (halike : Alike id x y) : Kin.Alike Set.univ (.ofOwner id) x y := by
  obtain ⟨heap, session⟩ := x
  obtain ⟨heap', session'⟩ := y
  obtain ⟨heq, hsound, hagree⟩ := halike
  cases heq
  have hsame : Scene.SameOn Set.univ (.ofOwner id) ⟨heap, session⟩ ⟨heap', session⟩ :=
    { Scene.SameOn.refl _ _ ⟨heap, session⟩ with cells := fun h hown => (hagree h hown).symm }
  exact ⟨hsame, rfl, rfl, rfl, Session.keeps_ofOwner_iff.mpr hsound.owned⟩

theorem of_kin (halike : Kin.Alike Set.univ (.ofOwner id) x y) (hid : x.session.id = id)
    (hevents : y.session.events = x.session.events) : Alike id x y := by
  have hregisters : y.session.registers = x.session.registers :=
    SortedMap.ext_get? fun name => halike.same.registers name trivial
  have hwraps : y.session.wraps = x.session.wraps :=
    SortedMap.ext_get? fun name => halike.same.wraps name trivial
  have hnamed : y.session.named = x.session.named :=
    SortedMap.ext_get? fun name => halike.same.named name trivial
  have htasks : y.session.tasks = x.session.tasks :=
    List.ext_getElem? fun task => halike.same.tasks task trivial
  have hsound : x.session.Sound id := ⟨hid, Session.keeps_ofOwner_iff.mp halike.keeps⟩
  refine ⟨?_, hsound, fun h hown => (halike.same.cells h hown).symm⟩
  calc x.session
    _ = ⟨x.session.id, x.session.made, x.session.registers, x.session.wraps, x.session.tasks,
        x.session.named, x.session.turns, x.session.events⟩ := rfl
    _ = y.session := by
      rw [← halike.same.id, ← halike.made, ← hregisters, ← hwraps, ← htasks, ← hnamed, ← halike.turns,
        ← hevents]

end Alike

/-- A computation that cannot tell alike scenes apart and leaves the cells of other owners alone. What
it gives is `good`. -/
def Private (id : Nat) (act : Scoped ε ρ α) (good : α → Prop) : Prop :=
  ∀ chain x y, OwnedBy id chain.Holds → Alike id x y →
    (act chain x).1 = (act chain y).1 ∧ good (act chain x).1 ∧
      Alike id (act chain x).2 (act chain y).2 ∧ (act chain x).2.heap.AgreeOff id x.heap

/-- A private poll: what is left of it has handles of its owner and no others. -/
abbrev PrivatePoll (id : Nat) {m : Mode} (poll : Scoped ε ρ (Poll ε ρ m)) : Prop :=
  Private id poll fun result => OwnedBy id result.Holds

namespace Private

open Scoped

variable {id : Nat} {act : Scoped ε ρ α} {good : α → Prop}

theorem of_pure {a : α} (ha : good a) : Private id (pure a : Scoped ε ρ α) good :=
  fun _ _ _ _ halike => ⟨rfl, ha, halike, fun _ _ => rfl⟩

theorem bind {next : α → Scoped ε ρ β} {good' : β → Prop} (hact : Private id act good)
    (hnext : ∀ a, good a → Private id (next a) good') : Private id (act >>= next) good' := by
  intro chain x y hchain halike
  obtain ⟨heq, hgood, halike', hkept⟩ := hact chain x y hchain halike
  obtain ⟨heq', hgood', halike'', hkept'⟩ := hnext _ hgood chain _ _ hchain halike'
  rw [bind_apply, bind_apply, ← heq]
  exact ⟨heq', hgood', halike'', fun h hother => (hkept' h hother).trans (hkept h hother)⟩

/-- What keeps to the cells of an owner, under whatever names, is private to the owner. -/
theorem of_within {goodOf : Kin → α → Prop} (hact : Kin.Within Set.univ (.ofOwner id) act goodOf)
    (hgood : ∀ a, goodOf (.ofOwner id) a → good a) : Private id act good := by
  intro chain x y hchain halike
  have hkin : Kin.Alike Set.univ (.ofOwner id) x y := halike.kin
  obtain ⟨heq, hresult, honward⟩ := hact chain x y (CallChain.of_ofOwner hchain) hkin
  have hgrown : Kin.grown (.ofOwner id) x.session (act chain x).2.session = .ofOwner id :=
    Kin.grown_ofOwner halike.sound.id_eq
  obtain ⟨hafter, hspared, news, hx, hy⟩ := honward
  rw [hgrown] at hresult hafter hspared
  have hevents : (act chain y).2.session.events = (act chain x).2.session.events := by
    rw [hx, hy, halike.session_eq]
  have hid : (act chain x).2.session.id = id := hspared.id.trans halike.sound.id_eq
  exact ⟨heq.symm, hgood _ hresult, .of_kin hafter hid hevents, hspared.cells⟩

end Private

/-- Each poll of a future that has only what is its owner's is private. -/
theorem Future.pollInAt_private {id : Nat} (depth : Nat) (future : Future ε ρ)
    (hfuture : OwnedBy id future.Holds) : PrivatePoll id (future.pollInAt depth) := by
  have hkeeps := future.pollInAt_keeps depth (.ofOwner id) (Future.of_ofOwner_iff.mpr hfuture)
  refine .of_within hkeeps fun result hresult => ?_
  cases result with
  | done exit => exact .none id
  | pending future => exact Future.of_ofOwner_iff.mp hresult

end RequestScope
