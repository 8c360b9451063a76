import RequestScope.Proofs.Extent.Registers

/-!
# Lending and holding

A program can be lent the current context, or be called with a handle to it that was taken before. While
a context is lent no extent can be entered, and that is all the difference there is: what is lent agrees
with what is held up to the first extent. The two ways are compared from one machine, in lockstep:
`Mirrors` says of two programs that they end alike and leave the same machine, the contexts apart that
are lent around them.
-/

namespace RequestScope

variable {ε ρ : Type}

/-! ### The two ways -/

/-- The context in a register instead of the one that was lent last. -/
def Target.through (register : String) : Target → Target
  | .lent => .register register
  | target => target

namespace Program

/-- A program that finds in a register what would be lent to it. What it lends a context to itself knows
that context as the one lent last, and what is kept for later is lent nothing here. -/
def through (register : String) {m : Mode} : Program ε ρ m → Program ε ρ m
  | .ret value => .ret value
  | .panic text => .panic text
  | .emit event next => .emit event (next.through register)
  | .access target change next =>
    .access (target.through register) change fun before => (next before).through register
  | .hold target register' next =>
    .hold (target.through register) register' fun found => (next found).through register
  | .create register' entries next => .create register' entries (next.through register)
  | .shares target other next =>
    .shares (target.through register) (other.through register) fun same => (next same).through register
  | .withCurrent body next => .withCurrent body fun value => (next value).through register
  | .runSync target body next =>
    .runSync (target.through register) (body.through register) fun value => (next value).through register
  | .catchSync body next => .catchSync (body.through register) fun exit => (next exit).through register
  | .run target body next =>
    .run (target.through register) (body.through register) fun value => (next value).through register
  | .catchPanic body next => .catchPanic (body.through register) fun exit => (next exit).through register
  | .wrap name body next => .wrap name body (next.through register)
  | .awaitWrapped name next => .awaitWrapped name fun value => (next value).through register
  | .spawn name wrapped body next => .spawn name wrapped body (next.through register)
  | .awaitTask name next => .awaitTask name fun exit => (next exit).through register
  | .pause next => .pause (next.through register)
  | .join left right next =>
    .join (left.through register) (right.through register) fun a b => (next a b).through register
  | .abandon target polls body next =>
    .abandon (target.through register) polls (body.through register) fun value =>
      (next value).through register

/-- Panics if there is a context that could be bound. -/
def refused {m : Mode} (target : Target) (program : Program ε ρ m) : Program ε ρ m :=
  .shares target target fun
    | some _ => .panic lentPanic
    | none => program

/-- A program that does not suspend, with a panic wherever it would enter an extent. What it lends the
current context to stays as it is: no extent can be entered there anyway. -/
def refusing {m : Mode} : Program ε ρ m → Program ε ρ m
  | .emit event next => .emit event next.refusing
  | .access target change next => .access target change fun before => (next before).refusing
  | .hold target register next => .hold target register fun found => (next found).refusing
  | .create register entries next => .create register entries next.refusing
  | .shares target other next => .shares target other fun same => (next same).refusing
  | .withCurrent body next => .withCurrent body fun value => (next value).refusing
  | .runSync target body next =>
    refused target (.runSync target body.refusing fun value => (next value).refusing)
  | .catchSync body next => .catchSync body.refusing fun exit => (next exit).refusing
  | .wrap name body next => .wrap name body next.refusing
  | .spawn name wrapped body next => .spawn name wrapped body next.refusing
  | .abandon target polls body next => .abandon target polls body fun value => (next value).refusing
  | program => program

/-- A program that enters no extent, but where it lends a context. -/
def EntersNone {m : Mode} : Program ε ρ m → Prop
  | .emit _ next => next.EntersNone
  | .access _ _ next => ∀ before, (next before).EntersNone
  | .hold _ _ next => ∀ found, (next found).EntersNone
  | .create _ _ next => next.EntersNone
  | .shares _ _ next => ∀ same, (next same).EntersNone
  | .withCurrent _ next => ∀ value, (next value).EntersNone
  | .runSync _ _ _ => False
  | .catchSync body next => body.EntersNone ∧ ∀ exit, (next exit).EntersNone
  | .wrap _ _ next => next.EntersNone
  | .spawn _ _ _ next => next.EntersNone
  | .abandon _ _ _ next => ∀ value, (next value).EntersNone
  | _ => True

/-- A program that does not suspend and polls no future: it makes and drops them only. -/
def Unpolling {m : Mode} : Program ε ρ m → Prop
  | .ret _ => True
  | .panic _ => True
  | .emit _ next => next.Unpolling
  | .access _ _ next => ∀ before, (next before).Unpolling
  | .hold _ _ next => ∀ found, (next found).Unpolling
  | .create _ _ next => next.Unpolling
  | .shares _ _ next => ∀ same, (next same).Unpolling
  | .withCurrent body next => body.Unpolling ∧ ∀ value, (next value).Unpolling
  | .runSync _ body next => body.Unpolling ∧ ∀ value, (next value).Unpolling
  | .catchSync body next => body.Unpolling ∧ ∀ exit, (next exit).Unpolling
  | .wrap _ _ next => next.Unpolling
  | .spawn _ _ _ next => next.Unpolling
  | .abandon _ polls _ next => polls = 0 ∧ ∀ value, (next value).Unpolling
  | _ => False

/-- Takes a handle to the current context and lends that context then. -/
def lendingCurrent {m : Mode} (register : String) (body : Program ε ρ .sync)
    (next : Option ρ → Program ε ρ m) : Program ε ρ m :=
  .hold .current register fun _ => .withCurrent body next

/-- Takes a handle to the current context and calls a program with it, unless there is none. -/
def holdingCurrent {m : Mode} (register : String) (body : Program ε ρ .sync)
    (next : Option ρ → Program ε ρ m) : Program ε ρ m :=
  .hold .current register fun
    | false => next none
    | true => .catchSync (body.through register) fun
      | .returned value => next (some value)
      | .panicked text => .panic text

theorem refusing_eq_self {m : Mode} {program : Program ε ρ m} (hprogram : program.EntersNone) :
    program.refusing = program := by
  induction program with
  | emit event next ih => exact congrArg _ (ih hprogram)
  | access target change next ih => exact congrArg _ (funext fun before => ih before (hprogram before))
  | hold target register next ih => exact congrArg _ (funext fun found => ih found (hprogram found))
  | create register entries next ih => exact congrArg _ (ih hprogram)
  | shares target other next ih => exact congrArg _ (funext fun same => ih same (hprogram same))
  | withCurrent body next _ ih => exact congrArg _ (funext fun value => ih value (hprogram value))
  | runSync target body next _ _ => exact hprogram.elim
  | catchSync body next ihbody ih =>
    exact congrArg₂ _ (ihbody hprogram.1) (funext fun exit => ih exit (hprogram.2 exit))
  | wrap name body next _ ih => exact congrArg _ (ih hprogram)
  | spawn name wrapped body next _ ih => exact congrArg _ (ih hprogram)
  | abandon target polls body next _ ih => exact congrArg _ (funext fun value => ih value (hprogram value))
  | _ => rfl

end Program

/-! ### Programs in lockstep -/

/-- The machine where these contexts are lent out. -/
def Machine.lending (s : Machine ε ρ) (lent : List Handle) : Machine ε ρ :=
  { s with world := { s.world with lent } }

/-- Two names for one context, the first where `lent` is lent and the second where `lent'` is. -/
def Target.Mirrors (ε ρ : Type) (register : String) (own : Handle) (lent lent' : List Handle)
    (target target' : Target) : Prop :=
  ∀ s : Machine ε ρ, s.session.registers.get? register = some own →
    (s.lending lent').find? target' = (s.lending lent).find? target

/-- Two programs that end alike and leave the same machine, the first where `lent` is lent and the second
where `lent'` is, as long as a register holds a certain context. -/
def Program.Mirrors (again : Future ε ρ → Machine ε ρ → Poll ε ρ .async × Machine ε ρ)
    (register : String) (own : Handle) (lent lent' : List Handle) {m : Mode}
    (program program' : Program ε ρ m) : Prop :=
  ∀ s : Machine ε ρ, s.session.registers.get? register = some own →
    ∃ (result : Poll ε ρ m) (t : Machine ε ρ), t.session.registers.get? register = some own ∧
      program.poll again (s.lending lent) = (result, t.lending lent) ∧
      program'.poll again (s.lending lent') = (result, t.lending lent')

section

variable {again : Future ε ρ → Machine ε ρ → Poll ε ρ .async × Machine ε ρ} {register : String}
  {own : Handle} {lent lent' : List Handle} {m : Mode}

theorem Target.mirrors_self (hlent : lent.head? = lent'.head?) (target : Target) :
    target.Mirrors ε ρ register own lent lent' target := by
  intro s _
  cases target with
  | lent => exact hlent.symm
  | _ => rfl

theorem Target.mirrors_through (target : Target) :
    target.Mirrors ε ρ register own (own :: lent) lent (target.through register) := by
  intro s hregister
  cases target with
  | lent => exact hregister
  | _ => rfl

namespace Program.Mirrors

theorem ret (value : ρ) :
    Mirrors again register own lent lent' (.ret value : Program ε ρ m) (.ret value) :=
  fun s hregister => ⟨_, s, hregister, rfl, rfl⟩

theorem panic (text : String) :
    Mirrors again register own lent lent' (.panic text : Program ε ρ m) (.panic text) :=
  fun s hregister => ⟨_, s, hregister, rfl, rfl⟩

theorem emit (event : ε) {next next' : Program ε ρ m}
    (hnext : Mirrors again register own lent lent' next next') :
    Mirrors again register own lent lent' (.emit event next) (.emit event next') :=
  fun s hregister => hnext (s.emit event) hregister

theorem access {target target' : Target} {next next' : Option Entries → Program ε ρ m}
    (change : Entries → Entries) (htarget : target.Mirrors ε ρ register own lent lent' target')
    (hnext : ∀ before, Mirrors again register own lent lent' (next before) (next' before)) :
    Mirrors again register own lent lent' (.access target change next) (.access target' change next') := by
  intro s hregister
  rw [Program.poll, Program.poll, htarget s hregister]
  cases (s.lending lent).find? target with
  | none => exact hnext none s hregister
  | some h => exact hnext (some (s.world.heap.read h)) (s.modify h change) hregister

theorem hold {target target' : Target} {register' : String} {next next' : Bool → Program ε ρ m}
    (hputs : register' = register → target' = .register register)
    (htarget : target.Mirrors ε ρ register own lent lent' target')
    (hnext : ∀ found, Mirrors again register own lent lent' (next found) (next' found)) :
    Mirrors again register own lent lent' (.hold target register' next) (.hold target' register' next') := by
  intro s hregister
  have hassign (h : Handle) (hfound : (s.lending lent').find? target' = some h) :
      (s.assign register' h).session.registers.get? register = some own := by
    change (s.session.registers.insert register' h).get? register = some own
    rw [SortedMap.get?_insert]
    split
    · rename_i heq
      -- What is put there was there before.
      rw [hputs heq] at hfound
      exact hfound.symm.trans hregister
    · exact hregister
  rw [Program.poll, Program.poll, ← htarget s hregister]
  cases hfound : (s.lending lent').find? target' with
  | none => exact hnext false s hregister
  | some h => exact hnext true (s.assign register' h) (hassign h hfound)

theorem create {register' : String} (entries : Entries) {next next' : Program ε ρ m}
    (hne : register' ≠ register) (hnext : Mirrors again register own lent lent' next next') :
    Mirrors again register own lent lent' (.create register' entries next)
      (.create register' entries next') := by
  intro s hregister
  have hcreate : (s.create register' entries).session.registers.get? register = some own := by
    change (s.session.registers.insert register' _).get? register = some own
    rw [SortedMap.get?_insert, if_neg hne, hregister]
  exact hnext (s.create register' entries) hcreate

theorem shares {target target' other other' : Target} {next next' : Option Bool → Program ε ρ m}
    (htarget : target.Mirrors ε ρ register own lent lent' target')
    (hother : other.Mirrors ε ρ register own lent lent' other')
    (hnext : ∀ same, Mirrors again register own lent lent' (next same) (next' same)) :
    Mirrors again register own lent lent' (.shares target other next) (.shares target' other' next') := by
  intro s hregister
  rw [Program.poll, Program.poll, htarget s hregister, hother s hregister]
  cases (s.lending lent).find? target with
  | none => exact hnext none s hregister
  | some h =>
    cases (s.lending lent).find? other with
    | none => exact hnext none s hregister
    | some h' => exact hnext _ s hregister

theorem withCurrent {body body' : Program ε ρ .sync} {next next' : Option ρ → Program ε ρ m}
    (hbody : ∀ h, Mirrors again register own (h :: lent) (h :: lent') body body')
    (hnext : ∀ value, Mirrors again register own lent lent' (next value) (next' value)) :
    Mirrors again register own lent lent' (.withCurrent body next) (.withCurrent body' next') := by
  intro s hregister
  have hcurrent : (s.lending lent').find? .current = (s.lending lent).find? .current := rfl
  rw [Program.poll, Program.poll, hcurrent]
  cases (s.lending lent).find? .current with
  | none => exact hnext none s hregister
  | some h =>
    obtain ⟨result, t, ht, hpoll, hpoll'⟩ := hbody h s hregister
    have hlend : (s.lending lent).lend h = s.lending (h :: lent) := rfl
    have hlend' : (s.lending lent').lend h = s.lending (h :: lent') := rfl
    simp only [hlend, hlend', hpoll, hpoll']
    cases result with
    | done exit =>
      cases exit with
      | returned value => exact hnext (some value) t ht
      | panicked text => exact ⟨_, t, ht, rfl, rfl⟩

/-- An extent is entered where nothing is lent, and refused where something is. -/
theorem within (hlent : lent.head? = lent'.head?) {body body' : Program ε ρ m}
    (hbody : Mirrors again register own lent lent' body body') (binding : Binding) (s : Machine ε ρ)
    (hregister : s.session.registers.get? register = some own) :
    ∃ (result : Poll ε ρ m) (after : Binding) (t : Machine ε ρ),
      t.session.registers.get? register = some own ∧
      pollWithin (body.poll again) binding (s.lending lent) = (result, after, t.lending lent) ∧
      pollWithin (body'.poll again) binding (s.lending lent') = (result, after, t.lending lent') := by
  cases binding with
  | free =>
    obtain ⟨result, t, ht, hpoll, hpoll'⟩ := hbody s hregister
    refine ⟨result, .free, t, ht, ?_, ?_⟩
    · rw [pollWithin, hpoll]
    · rw [pollWithin, hpoll']
  | held bound =>
    cases lent with
    | nil =>
      obtain rfl : lent' = [] := List.head?_eq_none_iff.mp hlent.symm
      obtain ⟨result, t, ht, hpoll, hpoll'⟩ := hbody (s.exchange bound).2 hregister
      have hentered (run : Machine ε ρ → Poll ε ρ m × Machine ε ρ)
          (hrun : run ((s.exchange bound).2.lending []) = (result, t.lending [])) :
          pollWithin run (.held bound) (s.lending []) =
            (result, .held t.world.slot, (t.exchange s.world.slot).2.lending []) := by
        let entered := run ((s.exchange bound).2.lending [])
        have hwithin : pollWithin run (.held bound) (s.lending []) =
            (entered.1, .held entered.2.world.slot, (entered.2.exchange s.world.slot).2) := rfl
        have hentered : entered = _ := hrun
        rw [hwithin, hentered]
        rfl
      exact ⟨result, _, (t.exchange s.world.slot).2, ht, hentered _ hpoll, hentered _ hpoll'⟩
    | cons h lent =>
      cases lent' with
      | nil => cases hlent
      | cons h' lent' => exact ⟨_, _, s, hregister, rfl, rfl⟩

theorem runSync {target target' : Target} {body body' : Program ε ρ .sync}
    {next next' : ρ → Program ε ρ m}
    (hlent : lent.head? = lent'.head?) (htarget : target.Mirrors ε ρ register own lent lent' target')
    (hbody : Mirrors again register own lent lent' body body')
    (hnext : ∀ value, Mirrors again register own lent lent' (next value) (next' value)) :
    Mirrors again register own lent lent' (.runSync target body next) (.runSync target' body' next') := by
  intro s hregister
  have hbinding : (s.lending lent').binding target' = (s.lending lent).binding target :=
    congrArg Binding.ofHandle? (htarget s hregister)
  obtain ⟨result, after, t, ht, hpoll, hpoll'⟩ :=
    within hlent hbody ((s.lending lent).binding target) s hregister
  rw [Program.poll, Program.poll, hbinding, hpoll, hpoll']
  cases result with
  | done exit =>
    cases exit with
    | returned value => exact hnext value t ht
    | panicked text => exact ⟨_, t, ht, rfl, rfl⟩

/-- To enter an extent while something is lent is to panic, unless there is nothing to bind. -/
theorem refused {target target' : Target} {body body' : Program ε ρ .sync}
    {next next' : ρ → Program ε ρ m} {refused : Option Bool → Program ε ρ m}
    (htarget : target.Mirrors ε ρ register own (own :: lent) lent' target')
    (hbody : Mirrors again register own (own :: lent) lent' body body')
    (hnext : ∀ value, Mirrors again register own (own :: lent) lent' (next value) (next' value))
    (hpanic : ∀ same, refused (some same) = .panic lentPanic)
    (hfree : refused none = .runSync target' body' next') :
    Mirrors again register own (own :: lent) lent' (.runSync target body next)
      (.shares target' target' refused) := by
  intro s hregister
  have hfound := htarget s hregister
  cases hcase : (s.lending (own :: lent)).find? target with
  | none =>
    rw [hcase] at hfound
    obtain ⟨result, t, ht, hpoll, hpoll'⟩ := hbody s hregister
    simp only [Program.poll, Machine.binding, Binding.ofHandle?, pollWithin, hcase, hfound, hfree, hpoll,
      hpoll']
    cases result with
    | done exit =>
      cases exit with
      | returned value => exact hnext value t ht
      | panicked text => exact ⟨_, t, ht, rfl, rfl⟩
  | some h =>
    rw [hcase] at hfound
    simp only [Program.poll, Machine.binding, hcase, hfound, hpanic]
    exact ⟨_, s, hregister, rfl, rfl⟩

theorem catchSync {body body' : Program ε ρ .sync} {next next' : Exit ρ → Program ε ρ m}
    (hbody : Mirrors again register own lent lent' body body')
    (hnext : ∀ exit, Mirrors again register own lent lent' (next exit) (next' exit)) :
    Mirrors again register own lent lent' (.catchSync body next) (.catchSync body' next') := by
  intro s hregister
  obtain ⟨result, t, ht, hpoll, hpoll'⟩ := hbody s hregister
  rw [Program.poll, Program.poll, hpoll, hpoll']
  cases result with
  | done exit => exact hnext exit t ht

theorem wrap (name : String) (body : Program ε ρ .async) {next next' : Program ε ρ m}
    (hnext : Mirrors again register own lent lent' next next') :
    Mirrors again register own lent lent' (.wrap name body next) (.wrap name body next') :=
  fun s hregister => hnext (s.wrap name body) hregister

theorem spawn (name : String) (wrapped : Bool) (body : Program ε ρ .async) {next next' : Program ε ρ m}
    (hnext : Mirrors again register own lent lent' next next') :
    Mirrors again register own lent lent' (.spawn name wrapped body next) (.spawn name wrapped body next') :=
  fun s hregister => hnext (s.spawn name wrapped body) hregister

theorem dropped (target target' : Target) (body body' : Program ε ρ .async)
    {next next' : Option ρ → Program ε ρ m}
    (hnext : ∀ value, Mirrors again register own lent lent' (next value) (next' value)) :
    Mirrors again register own lent lent' (.abandon target 0 body next) (.abandon target' 0 body' next') :=
  fun s hregister => hnext none s hregister

end Program.Mirrors

namespace Program

/-- Below the context lent last, what is lent does not matter. -/
theorem mirrors_self {program : Program ε ρ m} (hunpolling : program.Unpolling)
    (hputs : program.PutsBy register fun _ _ => False) (hlent : lent.head? = lent'.head?) :
    program.Mirrors again register own lent lent' program := by
  induction program generalizing lent lent' with
  | ret value => exact .ret value
  | panic text => exact .panic text
  | emit event next ih => exact .emit event (ih hunpolling hputs hlent)
  | access target change next ih =>
    exact .access change (target.mirrors_self hlent) fun before =>
      ih before (hunpolling before) (hputs before) hlent
  | hold target register' next ih =>
    exact .hold hputs.1 (target.mirrors_self hlent) fun found =>
      ih found (hunpolling found) (hputs.2 found) hlent
  | create register' entries next ih => exact .create entries hputs.1 (ih hunpolling hputs.2 hlent)
  | shares target other next ih =>
    exact .shares (target.mirrors_self hlent) (other.mirrors_self hlent) fun same =>
      ih same (hunpolling same) (hputs same) hlent
  | withCurrent body next ihbody ih =>
    exact .withCurrent (fun h => ihbody hunpolling.1 hputs.1 rfl) fun value =>
      ih value (hunpolling.2 value) (hputs.2 value) hlent
  | runSync target body next ihbody ih =>
    exact .runSync hlent (target.mirrors_self hlent) (ihbody hunpolling.1 hputs.1 hlent) fun value =>
      ih value (hunpolling.2 value) (hputs.2 value) hlent
  | catchSync body next ihbody ih =>
    exact .catchSync (ihbody hunpolling.1 hputs.1 hlent) fun exit =>
      ih exit (hunpolling.2 exit) (hputs.2 exit) hlent
  | wrap name body next _ ih => exact .wrap name body (ih hunpolling hputs.2 hlent)
  | spawn name wrapped body next _ ih => exact .spawn name wrapped body (ih hunpolling hputs.2 hlent)
  | abandon target polls body next _ ih =>
    obtain ⟨rfl, hnext⟩ := hunpolling
    exact .dropped target target body body fun value => ih value (hnext value) (hputs.2 value) hlent
  | _ => exact hunpolling.elim

/-- What is lent agrees with what is held up to the first extent. -/
theorem mirrors_through {program : Program ε ρ m} (hunpolling : program.Unpolling)
    (hputs : program.PutsBy register fun _ _ => False) :
    program.Mirrors again register own (own :: lent) lent (program.refusing.through register) := by
  induction program with
  | ret value => exact .ret value
  | panic text => exact .panic text
  | emit event next ih => exact .emit event (ih hunpolling hputs)
  | access target change next ih =>
    exact .access change target.mirrors_through fun before => ih before (hunpolling before) (hputs before)
  | hold target register' next ih =>
    have hsame (heq : register' = register) : target.through register = .register register := by
      rw [hputs.1 heq, Target.through]
      exact Target.noConfusion
    exact .hold hsame target.mirrors_through fun found => ih found (hunpolling found) (hputs.2 found)
  | create register' entries next ih => exact .create entries hputs.1 (ih hunpolling hputs.2)
  | shares target other next ih =>
    exact .shares target.mirrors_through other.mirrors_through fun same =>
      ih same (hunpolling same) (hputs same)
  | withCurrent body next _ ih =>
    exact .withCurrent (fun h => mirrors_self hunpolling.1 hputs.1 rfl) fun value =>
      ih value (hunpolling.2 value) (hputs.2 value)
  | runSync target body next ihbody ih =>
    have hnext (value : ρ) := ih value (hunpolling.2 value) (hputs.2 value)
    exact .refused target.mirrors_through (ihbody hunpolling.1 hputs.1) hnext (fun _ => rfl) rfl
  | catchSync body next ihbody ih =>
    exact .catchSync (ihbody hunpolling.1 hputs.1) fun exit => ih exit (hunpolling.2 exit) (hputs.2 exit)
  | wrap name body next _ ih => exact .wrap name body (ih hunpolling hputs.2)
  | spawn name wrapped body next _ ih => exact .spawn name wrapped body (ih hunpolling hputs.2)
  | abandon target polls body next _ ih =>
    obtain ⟨rfl, hnext⟩ := hunpolling
    exact .dropped _ _ _ _ fun value => ih value (hnext value) (hputs.2 value)
  | _ => exact hunpolling.elim

/-- To lend the current context comes to the same as to hold it, but that the program that it is lent to
panics where it would enter an extent; if that program enters none, there is no difference. -/
theorem lending_eq_holding (again : Future ε ρ → Machine ε ρ → Poll ε ρ .async × Machine ε ρ)
    (register : String) (body : Program ε ρ .sync) (next : Option ρ → Program ε ρ m)
    (hbody : body.Unpolling) (hregister : body.PutsBy register fun _ _ => False) (s : Machine ε ρ) :
    (lendingCurrent register body next).poll again s =
        (holdingCurrent register body.refusing next).poll again s ∧
      (body.EntersNone → body.refusing = body) := by
  refine ⟨?_, refusing_eq_self⟩
  rw [lendingCurrent, holdingCurrent, Program.poll, Program.poll]
  cases hcurrent : s.find? .current with
  | none => simp only [Program.poll, hcurrent]
  | some own =>
    let held := s.assign register own
    have hheld : held.find? .current = some own := hcurrent
    have hown : held.session.registers.get? register = some own := by
      change (s.session.registers.insert register own).get? register = some own
      rw [SortedMap.get?_insert, if_pos rfl]
    have hmirrors : body.Mirrors again register own (own :: s.world.lent) s.world.lent
        (body.refusing.through register) := mirrors_through hbody hregister
    obtain ⟨result, t, -, hlent, hthrough⟩ := hmirrors held hown
    have hlending : body.poll again (held.lend own) = (result, t.lending (own :: s.world.lent)) := hlent
    have hholding : (body.refusing.through register).poll again held = (result, t.lending s.world.lent) :=
      hthrough
    change (withCurrent body next).poll again held =
      (catchSync (body.refusing.through register) _).poll again held
    rw [Program.poll, Program.poll, hheld, hholding]
    simp only [hlending]
    -- What was lent is taken back, and then both machines are the same.
    cases result with
    | done exit =>
      cases exit with
      | returned value => rfl
      | panicked text => rfl

/-- A program notes something in the context that is lent to it, and lends the same context once more to
find the note. -/
theorem lending_eq_holding_noted :
    let c : Handle := ⟨0, 0⟩
    let note : Program Unit (List String) .sync :=
      .insert .lent "note" .null fun _ =>
        .withCurrent (.inspect .lent fun found => .ret ((found.getD .empty).keys)) fun keys =>
          .ret (keys.getD [])
    let next : Option (List String) → Program Unit (List String) .sync := fun keys => .ret (keys.getD [])
    let s : Machine Unit (List String) := ⟨{ slot := some c }, { id := 0, made := 1 }⟩
    (note.Unpolling ∧ note.PutsBy "held" (fun _ _ => False) ∧ note.EntersNone) ∧
      (lendingCurrent "held" note next).poll (Future.pollAt 0) s =
        (holdingCurrent "held" note next).poll (Future.pollAt 0) s ∧
      ((lendingCurrent "held" note next).poll (Future.pollAt 0) s).1 = .done (.returned ["note"]) := by
  intro c note next s
  have hnote : note.Unpolling := fun _ => ⟨fun _ => trivial, fun _ => trivial⟩
  have hheld : note.PutsBy "held" fun _ _ => False := fun _ => ⟨fun _ => trivial, fun _ => trivial⟩
  have hnone : note.EntersNone := fun _ _ => trivial
  obtain ⟨hsame, hself⟩ := lending_eq_holding (Future.pollAt 0) "held" note next hnote hheld s
  rw [hself hnone] at hsame
  exact ⟨⟨hnote, hheld, hnone⟩, hsame, rfl⟩

/-- A program that runs another one in a context of its own panics where the current context is lent to
it, and returns where the current context was held for it. -/
theorem lent_extent_panics :
    let body : Program Unit Bool .sync := .create "own" .empty (.runSync (.register "own") (.ret true) .ret)
    let next : Option Bool → Program Unit Bool .async := fun value => .ret (value.getD false)
    let lending := Program.create "c" .empty (.run (.register "c") (lendingCurrent "held" body next) .ret)
    let holding := Program.create "c" .empty (.run (.register "c") (holdingCurrent "held" body next) .ret)
    ((Process.ofProgram 0 [] lending).finish 1 1 {}).1.exit? = some (.panicked lentPanic) ∧
      ((Process.ofProgram 0 [] holding).finish 1 1 {}).1.exit? = some (.returned true) :=
  ⟨rfl, rfl⟩

end Program

end

end RequestScope
