import RequestScope.Proofs.Extent.Registers

/-!
# Accounts of a run

A program that puts contexts into a register only by creating them there leaves in the register, at each
point of its runs, the context that was created there last. `Steady` says so of one computation and its
trail: it is what each operation keeps, what computations keep that are put one behind the other, and so
what every poll and every choice of a schedule keeps. The events are accounted for in the same induction:
those of a run are those reported at its points, in their order, so that no point is left out at which
anything is reported.
-/

namespace RequestScope

variable {ε ρ α β : Type}

section

variable (register : String) (calls : (m : Mode) → Program ε ρ m → Prop)

/-- A session as a run has made it that came by the given points. -/
structure Session.IsAfter (past : List (Point ε ρ)) (s : Session ε ρ) : Prop where
  holds : s.registers.get? register = Point.lastCreated register past
  reported : s.events.reverse = Point.reports past
  wraps : ∀ name wrapped, s.wraps.get? name = some wrapped →
    wrapped.1.Binds ∧ wrapped.2.PutsBy register calls
  tasks : ∀ progress ∈ s.tasks, progress.PutsBy register calls

structure Point.IsAfter (past : List (Point ε ρ)) (point : Point ε ρ) : Prop where
  session : point.scene.session.IsAfter register calls past
  puts : point.program.PutsBy register calls
  binds : point.chain.Binds

/-- Each point is as the points before it have made it. -/
def Accounted (past : List (Point ε ρ)) : List (Point ε ρ) → Prop
  | [] => True
  | point :: rest => point.IsAfter register calls past ∧ Accounted (past ++ [point]) rest

/-- A computation, with its trail, that keeps the account. What it gives is `good`. -/
def Steady (act : Scoped ε ρ α) (trail : Trail ε ρ) (good : α → Prop) : Prop :=
  ∀ past chain x, chain.Binds → x.session.IsAfter register calls past →
    Accounted register calls past (trail chain x) ∧ good (act chain x).1 ∧
      (act chain x).2.session.IsAfter register calls (past ++ trail chain x)

/-- A steady poll: what is left of it puts contexts into the register as before. -/
abbrev SteadyPoll {m : Mode} (poll : Scoped ε ρ (Poll ε ρ m)) (trail : Trail ε ρ) : Prop :=
  Steady register calls poll trail fun result => result.PutsBy register calls

end

section

variable {register : String} {calls : (m : Mode) → Program ε ρ m → Prop}

theorem Accounted.append {past first second : List (Point ε ρ)} (hfirst : Accounted register calls past first)
    (hsecond : Accounted register calls (past ++ first) second) :
    Accounted register calls past (first ++ second) := by
  induction first generalizing past with
  | nil => simpa using hsecond
  | cons point rest ih =>
    refine ⟨hfirst.1, ih hfirst.2 ?_⟩
    simpa using hsecond

theorem Accounted.isAfter {past before rest : List (Point ε ρ)} {point : Point ε ρ}
    (h : Accounted register calls past (before ++ point :: rest)) :
    point.IsAfter register calls (past ++ before) := by
  induction before generalizing past with
  | nil => simpa using h.1
  | cons first before ih => simpa using ih h.2

/-- A point at which nothing is created or reported changes nothing in the account. -/
theorem Session.IsAfter.quiet {past : List (Point ε ρ)} {s : Session ε ρ}
    (h : s.IsAfter register calls past) {point : Point ε ρ} (hcreated : point.created? register = none)
    (hreported : point.reported? = none) : s.IsAfter register calls (past ++ [point]) := by
  refine ⟨?_, ?_, h.wraps, h.tasks⟩
  · rw [Point.lastCreated_concat, hcreated, Option.none_or, h.holds]
  · rw [Point.reports_concat, hreported, h.reported]
    simp

namespace Steady

open Scoped

variable {act : Scoped ε ρ α} {trail : Trail ε ρ} {good : α → Prop}

/-- A computation that comes by no point. -/
theorem unnoted (hact : ∀ past chain x, x.session.IsAfter register calls past →
    good (act chain x).1 ∧ (act chain x).2.session.IsAfter register calls past) :
    Steady register calls act .none good := by
  intro past chain x _ hx
  obtain ⟨hgood, hx'⟩ := hact past chain x hx
  refine ⟨trivial, hgood, ?_⟩
  rw [Trail.none, List.append_nil]
  exact hx'

theorem of_pure {a : α} (ha : good a) : Steady register calls (pure a : Scoped ε ρ α) .none good :=
  unnoted fun _ _ _ hx => ⟨ha, hx⟩

theorem behind {next : α → Scoped ε ρ β} {rest : α → Trail ε ρ} {good' : β → Prop}
    (hact : Steady register calls act trail good)
    (hnext : ∀ a, good a → Steady register calls (next a) (rest a) good') :
    Steady register calls (act >>= next) (trail.behind act rest) good' := by
  intro past chain x hchain hx
  obtain ⟨htrail, hgood, hx'⟩ := hact past chain x hchain hx
  obtain ⟨hrest, hgood', hx''⟩ := hnext _ hgood _ chain _ hchain hx'
  refine ⟨htrail.append hrest, hgood', ?_⟩
  rw [bind_apply, Trail.behind, ← List.append_assoc]
  exact hx''

theorem after {next : α → Scoped ε ρ β} {rest : α → Trail ε ρ} {good' : β → Prop}
    (hact : Steady register calls act .none good)
    (hnext : ∀ a, good a → Steady register calls (next a) (rest a) good') :
    Steady register calls (act >>= next) (.after act rest) good' :=
  hact.behind hnext

/-- What is done at last comes by no point. -/
theorem last {next : α → Scoped ε ρ β} {good' : β → Prop} (hact : Steady register calls act trail good)
    (hnext : ∀ a, good a → Steady register calls (next a) .none good') :
    Steady register calls (act >>= next) trail good' := by
  have htrail : trail.behind act (fun _ => .none) = trail := by
    funext chain x
    exact List.append_nil (trail chain x)
  rw [← htrail]
  exact hact.behind hnext

theorem within (hact : Steady register calls act trail good) {f : CallChain → CallChain}
    (hf : ∀ chain, chain.Binds → (f chain).Binds) :
    Steady register calls (withReader f act) (trail.within f) good :=
  fun past chain x hchain hx => hact past (f chain) x (hf chain hchain) hx

/-- A point at which nothing is created or reported. -/
theorem here {m : Mode} {program : Program ε ρ m} (hputs : program.PutsBy register calls)
    (hquiet : ∀ chain x, Point.created? register ⟨program, chain, x⟩ = none ∧
      Point.reported? ⟨program, chain, x⟩ = none)
    (hact : Steady register calls act trail good) :
    Steady register calls act (.here program trail) good := by
  intro past chain x hchain hx
  obtain ⟨hcreated, hreported⟩ := hquiet chain x
  obtain ⟨htrail, hgood, hx'⟩ := hact _ chain x hchain (hx.quiet hcreated hreported)
  refine ⟨⟨⟨hx, hputs, hchain⟩, htrail⟩, hgood, ?_⟩
  simpa [Trail.here] using hx'

/-- A point at which something is done that the account has to take note of. -/
theorem noted {m : Mode} {program : Program ε ρ m} {next : α → Scoped ε ρ β} {rest : α → Trail ε ρ}
    {good' : β → Prop} (hputs : program.PutsBy register calls)
    (hact : ∀ past chain x, x.session.IsAfter register calls past →
      (act chain x).2.session.IsAfter register calls (past ++ [⟨program, chain, x⟩]))
    (hnext : ∀ a, Steady register calls (next a) (rest a) good') :
    Steady register calls (act >>= next) (.here program (.after act rest)) good' := by
  intro past chain x hchain hx
  obtain ⟨hrest, hgood, hx'⟩ := hnext _ _ chain _ hchain (hact past chain x hx)
  refine ⟨⟨⟨hx, hputs, hchain⟩, hrest⟩, hgood, ?_⟩
  rw [bind_apply, Trail.here, Trail.after, List.append_cons]
  exact hx'

theorem find? (target : Target) : Steady register calls (find? target) .none fun _ => True := by
  refine unnoted fun past chain x hx => ⟨trivial, ?_⟩
  rw [find?_machine]
  exact hx

theorem binding (target : Target) : Steady register calls (binding target) .none (·.Binds) :=
  (find? target).after fun found _ => of_pure (Binding.binds_ofHandle? found)

theorem update (h : Handle) (change : Entries → Entries) :
    Steady register calls (update h change) .none fun _ => True :=
  unnoted fun _ _ _ hx => ⟨trivial, hx⟩

theorem keep (name : String) {binding : Binding} (hbinding : binding.Binds) {body : Program ε ρ .async}
    (hbody : body.PutsBy register calls) :
    Steady register calls (keep name binding body) .none fun _ => True := by
  refine unnoted fun past chain x hx => ⟨trivial, hx.holds, hx.reported, ?_, hx.tasks⟩
  intro name' wrapped hget
  have hget : (x.session.wraps.insert name (binding, body)).get? name' = some wrapped := hget
  rw [SortedMap.get?_insert] at hget
  split at hget
  · cases hget
    exact ⟨hbinding, hbody⟩
  · exact hx.wraps name' wrapped hget

theorem takeWrapped? (name : String) : Steady register calls (takeWrapped? name) .none fun found =>
    ∀ wrapped, found = some wrapped → wrapped.1.Binds ∧ wrapped.2.PutsBy register calls := by
  refine unnoted fun past chain x hx => ?_
  rw [Scoped.takeWrapped?, bind_apply, session_apply]
  cases hget : x.session.wraps.get? name with
  | none =>
    refine ⟨fun _ hnone => ?_, hx⟩
    cases hnone
  | some wrapped =>
    refine ⟨fun wrapped' hsome => ?_, hx.holds, hx.reported, fun name' wrapped' hget' => ?_, hx.tasks⟩
    · cases hsome
      exact hx.wraps name wrapped hget
    · have hget' : (x.session.wraps.erase name).get? name' = some wrapped' := hget'
      rw [SortedMap.get?_erase] at hget'
      split at hget'
      · cases hget'
      · exact hx.wraps name' wrapped' hget'

theorem start (name : String) {binding : Binding} (hbinding : binding.Binds) {body : Program ε ρ .async}
    (hbody : body.PutsBy register calls) :
    Steady register calls (start name binding body) .none fun _ => True := by
  refine unnoted fun past chain x hx => ⟨trivial, hx.holds, hx.reported, hx.wraps, ?_⟩
  intro progress hmem
  rcases List.mem_append.mp hmem with hmem | hmem
  · exact hx.tasks progress hmem
  · rw [List.mem_singleton.mp hmem]
    exact ⟨hbinding, hbody, fun _ => trivial⟩

theorem takeTask? (name : String) : Steady register calls (takeTask? name) .none fun _ => True := by
  refine unnoted fun past chain x hx => ⟨trivial, ?_⟩
  rw [Scoped.takeTask?, bind_apply, session_apply]
  cases x.session.named.get? name with
  | none => exact hx
  | some task => exact ⟨hx.holds, hx.reported, hx.wraps, hx.tasks⟩

theorem taskExit? (task : Nat) : Steady register calls (taskExit? task) .none fun _ => True := by
  refine unnoted fun past chain x hx => ⟨trivial, ?_⟩
  rw [taskExit?_machine]
  exact hx

theorem takeTurn : Steady register calls takeTurn .none fun _ => True := by
  refine unnoted fun past chain x hx => ⟨trivial, ?_⟩
  rw [Scoped.takeTurn, bind_apply, session_apply]
  cases x.session.turns with
  | nil => exact hx
  | cons turn turns => exact ⟨hx.holds, hx.reported, hx.wraps, hx.tasks⟩

/-- What is put into the register is there already. -/
theorem hold {target : Target} {register' : String} {absent present : Scoped ε ρ α} {trail' : Trail ε ρ}
    (hputs : register' = register → target = .register register)
    (habsent : Steady register calls absent trail good)
    (hpresent : Steady register calls present trail' good) :
    Steady register calls
      (do
        match ← Scoped.find? target with
        | none => absent
        | some h => do
          assign register' h
          present)
      (.after (Scoped.find? target) fun
        | none => trail
        | some h => .after (assign register' h) fun _ => trail') good := by
  intro past chain x hchain hx
  rw [bind_apply, Trail.after, find?_machine]
  cases hfind : (x.machine chain).find? target with
  | none => exact habsent past chain x hchain hx
  | some h =>
    -- Whichever register is written, this one has the context that it had.
    refine hpresent past chain _ hchain ⟨?_, hx.reported, hx.wraps, hx.tasks⟩
    change (x.session.registers.insert register' h).get? register = _
    rw [SortedMap.get?_insert]
    split
    · rename_i heq
      rw [hputs heq] at hfind
      exact hfind.symm.trans hx.holds
    · exact hx.holds

theorem inside {m : Mode} {binding : Binding} (hbinding : binding.Binds) {body : Scoped ε ρ (Poll ε ρ m)}
    (hbody : SteadyPoll register calls body trail) :
    SteadyPoll register calls (inside binding body) (trail.inside binding) := by
  cases binding with
  | free => exact hbody
  | held own =>
    intro past chain x hchain hx
    rw [inside_held]
    cases hlent : chain.isLent with
    | true => simpa [Trail.inside, hlent, Accounted, Poll.PutsBy] using hx
    | false => simpa [Trail.inside, hlent] using hbody past (chain.enter own) x (hchain.enter hbinding) hx

theorem side {poll : Scoped ε ρ (Poll ε ρ .async)} (hpoll : SteadyPoll register calls poll trail) :
    Steady register calls (side poll) trail fun side =>
      ∀ future, side = .ok future → future.PutsBy register calls := by
  refine hpoll.last fun result hresult => of_pure fun future hside => ?_
  cases result with
  | done exit =>
    cases exit with
    | returned value =>
      cases hside
      trivial
    | panicked text => cases hside
  | pending future =>
    cases hside
    exact hresult

theorem sides {pollFirst pollSecond : Scoped ε ρ (Poll ε ρ .async)} {first second : Trail ε ρ}
    (hfirst : SteadyPoll register calls pollFirst first)
    (hsecond : SteadyPoll register calls pollSecond second) :
    Steady register calls (sides pollFirst pollSecond) (first.sides second pollFirst) fun sides =>
      ∀ a b, sides = .ok (a, b) → a.PutsBy register calls ∧ b.PutsBy register calls := by
  refine hfirst.side.behind fun side hside => ?_
  cases side with
  | error text => exact of_pure fun _ _ herror => by cases herror
  | ok a =>
    refine hsecond.side.last fun side' hside' => ?_
    cases side' with
    | error text => exact of_pure fun _ _ herror => by cases herror
    | ok b =>
      refine of_pure fun _ _ hsides => ?_
      cases hsides
      exact ⟨hside a rfl, hside' b rfl⟩

theorem pair {pollLeft pollRight : Scoped ε ρ (Poll ε ρ .async)} {left right : Trail ε ρ}
    {futureLeft futureRight : Future ε ρ} (hpollLeft : SteadyPoll register calls pollLeft left)
    (hpollRight : SteadyPoll register calls pollRight right) (hleft : futureLeft.PutsBy register calls)
    (hright : futureRight.PutsBy register calls) :
    Steady register calls (pair pollLeft pollRight futureLeft futureRight)
      (left.pair right pollLeft pollRight) fun result => result.PutsBy register calls := by
  refine takeTurn.after fun turn _ => ?_
  cases turn with
  | leftFirst =>
    refine (hpollLeft.sides hpollRight).last fun sides hsides => of_pure ?_
    cases sides with
    | error text => trivial
    | ok both => exact .ofSides (hsides _ _ rfl).1 (hsides _ _ rfl).2
  | rightFirst =>
    refine (hpollRight.sides hpollLeft).last fun sides hsides => of_pure ?_
    cases sides with
    | error text => trivial
    | ok both => exact .ofSides (hsides _ _ rfl).2 (hsides _ _ rfl).1
  | leftOnly =>
    refine hpollLeft.side.last fun side hside => of_pure ?_
    cases side with
    | error text => trivial
    | ok a => exact .ofSides (hside a rfl) hright
  | rightOnly =>
    refine hpollRight.side.last fun side hside => of_pure ?_
    cases side with
    | error text => trivial
    | ok b => exact .ofSides hleft (hside b rfl)

variable {again : Future ε ρ → Trail ε ρ} {againIn : Future ε ρ → Scoped ε ρ (Poll ε ρ .async)}

theorem times
    (hagain : ∀ future, future.PutsBy register calls →
      SteadyPoll register calls (againIn future) (again future))
    (polls : Nat) {future : Future ε ρ} (hfuture : future.PutsBy register calls) :
    Steady register calls (times againIn polls future) (.times again againIn polls future) fun _ => True := by
  induction polls generalizing future with
  | zero => exact of_pure trivial
  | succ polls ih =>
    refine (hagain future hfuture).behind fun result hresult => ?_
    cases result with
    | done exit => exact of_pure trivial
    | pending future => exact ih hresult

/-- A context comes into being, in this register or in another. -/
theorem create {m : Mode} {register' : String} {entries : Entries} {next : Program ε ρ m}
    (hputs : (Program.create register' entries next).PutsBy register calls)
    (hnext : SteadyPoll register calls (next.pollIn againIn) (next.trail again againIn)) :
    SteadyPoll register calls ((Program.create register' entries next).pollIn againIn)
      ((Program.create register' entries next).trail again againIn) := by
  rw [Program.pollIn, Program.trail]
  refine noted hputs (fun past chain x hx => ?_) fun _ => hnext
  refine ⟨?_, ?_, hx.wraps, hx.tasks⟩
  · rw [Point.lastCreated_concat, ← hx.holds]
    change (x.session.registers.insert register' _).get? register = _
    rw [SortedMap.get?_insert]
    by_cases heq : register' = register
    · simp [Point.created?, heq]
    · simp [Point.created?, heq]
  · rw [Point.reports_concat, ← hx.reported]
    exact (List.append_nil _).symm

theorem emit {m : Mode} {event : ε} {next : Program ε ρ m}
    (hputs : (Program.emit event next).PutsBy register calls)
    (hnext : SteadyPoll register calls (next.pollIn againIn) (next.trail again againIn)) :
    SteadyPoll register calls ((Program.emit event next).pollIn againIn)
      ((Program.emit event next).trail again againIn) := by
  rw [Program.pollIn, Program.trail]
  refine noted hputs (fun past chain x hx => ?_) fun _ => hnext
  refine ⟨?_, ?_, hx.wraps, hx.tasks⟩
  · rw [Point.lastCreated_concat, ← hx.holds]
    rfl
  · rw [Point.reports_concat, ← hx.reported]
    exact List.reverse_cons

end Steady

/-! ### Polls -/

section

open Steady

variable {again : Future ε ρ → Trail ε ρ} {againIn : Future ε ρ → Scoped ε ρ (Poll ε ρ .async)}

theorem Program.pollIn_steady
    (hagain : ∀ future, future.PutsBy register calls →
      SteadyPoll register calls (againIn future) (again future))
    {m : Mode} (program : Program ε ρ m) (hputs : program.PutsBy register calls) :
    SteadyPoll register calls (program.pollIn againIn) (program.trail again againIn) := by
  -- The points passed so far are universally quantified in `Steady`, so that the hypotheses for bodies and
  -- for what follows serve wherever a run comes to them.
  induction program with
  | ret value => exact here hputs (fun _ _ => ⟨rfl, rfl⟩) (of_pure trivial)
  | panic text => exact here hputs (fun _ _ => ⟨rfl, rfl⟩) (of_pure trivial)
  | emit event next ih => exact Steady.emit hputs (ih hputs)
  | access target change next ih =>
    rw [Program.pollIn, Program.trail]
    refine here hputs (fun _ _ => ⟨rfl, rfl⟩) ((find? target).after fun found _ => ?_)
    cases found with
    | none => exact ih none (hputs none)
    | some h => exact (update h change).after fun before _ => ih (some before) (hputs (some before))
  | hold target register' next ih =>
    rw [Program.pollIn, Program.trail]
    refine here hputs (fun _ _ => ⟨rfl, rfl⟩) ?_
    exact Steady.hold hputs.1 (ih false (hputs.2 false)) (ih true (hputs.2 true))
  | create register' entries next ih => exact Steady.create hputs (ih hputs.2)
  | shares target other next ih =>
    rw [Program.pollIn, Program.trail]
    refine here hputs (fun _ _ => ⟨rfl, rfl⟩) ?_
    refine (find? target).after fun found _ => (find? other).after fun found' _ => ?_
    cases found with
    | none => exact ih none (hputs none)
    | some h =>
      cases found' with
      | none => exact ih none (hputs none)
      | some h' => exact ih (some (decide (h = h'))) (hputs (some (decide (h = h'))))
  | withCurrent body next ihbody ih =>
    rw [Program.pollIn, Program.trail]
    refine here hputs (fun _ _ => ⟨rfl, rfl⟩) ((find? .current).after fun found _ => ?_)
    cases found with
    | none => exact ih none (hputs.2 none)
    | some h =>
      have hlent := (ihbody hputs.1).within (f := (·.lend h)) fun chain hchain => hchain
      refine hlent.behind fun result _ => ?_
      cases result with
      | done exit =>
        cases exit with
        | returned value => exact ih (some value) (hputs.2 (some value))
        | panicked text => exact of_pure trivial
  | runSync target body next ihbody ih =>
    rw [Program.pollIn, Program.trail]
    refine here hputs (fun _ _ => ⟨rfl, rfl⟩) ((binding target).after fun binding hbinding => ?_)
    refine (inside hbinding (ihbody hputs.1)).behind fun result _ => ?_
    cases result with
    | done exit =>
      cases exit with
      | returned value => exact ih value (hputs.2 value)
      | panicked text => exact of_pure trivial
  | catchSync body next ihbody ih =>
    rw [Program.pollIn, Program.trail]
    refine here hputs (fun _ _ => ⟨rfl, rfl⟩) ((ihbody hputs.1).behind fun result _ => ?_)
    cases result with
    | done exit => exact ih exit (hputs.2 exit)
  | run target body next ihbody ih =>
    rw [Program.pollIn, Program.trail]
    refine here hputs (fun _ _ => ⟨rfl, rfl⟩) ((binding target).after fun binding hbinding => ?_)
    refine (inside hbinding (ihbody hputs.1)).behind fun result hresult => ?_
    cases result with
    | done exit =>
      cases exit with
      | returned value => exact ih value (hputs.2 value)
      | panicked text => exact of_pure trivial
    | pending future => exact of_pure ⟨hbinding, hresult, hputs.2⟩
  | catchPanic body next ihbody ih =>
    rw [Program.pollIn, Program.trail]
    refine here hputs (fun _ _ => ⟨rfl, rfl⟩) ((ihbody hputs.1).behind fun result hresult => ?_)
    cases result with
    | done exit => exact ih exit (hputs.2 exit)
    | pending future => exact of_pure ⟨hresult, hputs.2⟩
  | wrap name body next ihbody ih =>
    rw [Program.pollIn, Program.trail]
    refine here hputs (fun _ _ => ⟨rfl, rfl⟩) ((binding .current).after fun binding hbinding => ?_)
    exact (keep name hbinding hputs.1).after fun _ _ => ih hputs.2
  | awaitWrapped name next ih =>
    rw [Program.pollIn, Program.trail]
    refine here hputs (fun _ _ => ⟨rfl, rfl⟩) ((takeWrapped? name).after fun found hfound => ?_)
    cases found with
    | none => exact of_pure trivial
    | some wrapped =>
      obtain ⟨hbinding, hbody⟩ := hfound wrapped rfl
      refine (inside hbinding (hagain (.ready wrapped.2) hbody)).behind fun result hresult => ?_
      cases result with
      | done exit =>
        cases exit with
        | returned value => exact ih value (hputs value)
        | panicked text => exact of_pure trivial
      | pending future => exact of_pure ⟨hbinding, hresult, hputs⟩
  | spawn name wrapped body next ihbody ih =>
    rw [Program.pollIn, Program.trail]
    refine here hputs (fun _ _ => ⟨rfl, rfl⟩) ((binding .current).after fun binding hbinding => ?_)
    have hchosen : (if wrapped then binding else .free).Binds := by
      split
      · exact hbinding
      · simp [Binding.Binds]
    exact (start name hchosen hputs.1).after fun _ _ => ih hputs.2
  | awaitTask name next ih =>
    rw [Program.pollIn, Program.trail]
    refine here hputs (fun _ _ => ⟨rfl, rfl⟩) ((takeTask? name).after fun found _ => ?_)
    cases found with
    | none => exact of_pure trivial
    | some task =>
      refine (taskExit? task).after fun found _ => ?_
      cases found with
      | none => exact of_pure hputs
      | some exit => exact ih exit (hputs exit)
  | pause next ih => exact here hputs (fun _ _ => ⟨rfl, rfl⟩) (of_pure hputs)
  | join left right next ihleft ihright ih =>
    obtain ⟨hleft, hright, hnext⟩ := hputs
    rw [Program.pollIn, Program.trail]
    refine here ⟨hleft, hright, hnext⟩ (fun _ _ => ⟨rfl, rfl⟩) ?_
    have hready : (Future.ready left).PutsBy register calls := hleft
    have hready' : (Future.ready right).PutsBy register calls := hright
    refine (pair (ihleft hleft) (ihright hright) hready hready').behind fun result hresult => ?_
    cases result with
    | both a b => exact ih a b (hnext a b)
    | panicked text => exact of_pure trivial
    | waiting left right => exact of_pure ⟨hresult.1, hresult.2, hnext⟩
  | abandon target polls body next ihbody ih =>
    cases polls with
    | zero =>
      rw [Program.pollIn, Program.trail]
      exact here hputs (fun _ _ => ⟨rfl, rfl⟩) (ih none (hputs.2 none))
    | succ polls =>
      rw [Program.pollIn, Program.trail]
      refine here hputs (fun _ _ => ⟨rfl, rfl⟩) ((binding target).after fun binding hbinding => ?_)
      refine (inside hbinding (ihbody hputs.1)).behind fun result hresult => ?_
      cases result with
      | done exit =>
        cases exit with
        | returned value => exact ih (some value) (hputs.2 (some value))
        | panicked text => exact of_pure trivial
      | pending future =>
        have hleft : (Future.within binding future .ret).PutsBy register calls :=
          ⟨hbinding, hresult, fun _ => trivial⟩
        refine (times hagain polls hleft).behind fun found _ => ?_
        cases found with
        | none => exact ih none (hputs.2 none)
        | some exit =>
          cases exit with
          | returned value => exact ih (some value) (hputs.2 (some value))
          | panicked text => exact of_pure trivial

theorem Future.pollIn_steady
    (hagain : ∀ future, future.PutsBy register calls →
      SteadyPoll register calls (againIn future) (again future))
    (future : Future ε ρ) (hputs : future.PutsBy register calls) :
    SteadyPoll register calls (future.pollIn againIn) (future.trail again againIn) := by
  induction future with
  | ready program => exact program.pollIn_steady hagain hputs
  | ended value => exact of_pure trivial
  | within binding body next ih =>
    obtain ⟨hbinding, hbody, hnext⟩ := hputs
    refine (inside hbinding (ih hbody)).behind fun result hresult => ?_
    cases result with
    | done exit =>
      cases exit with
      | returned value => exact (next value).pollIn_steady hagain (hnext value)
      | panicked text => exact of_pure trivial
    | pending future => exact of_pure ⟨hbinding, hresult, hnext⟩
  | caught body next ih =>
    refine (ih hputs.1).behind fun result hresult => ?_
    cases result with
    | done exit => exact (next exit).pollIn_steady hagain (hputs.2 exit)
    | pending future => exact of_pure ⟨hresult, hputs.2⟩
  | joined left right next ihleft ihright =>
    obtain ⟨hleft, hright, hnext⟩ := hputs
    refine (pair (ihleft hleft) (ihright hright) hleft hright).behind fun result hresult => ?_
    cases result with
    | both a b => exact (next a b).pollIn_steady hagain (hnext a b)
    | panicked text => exact of_pure trivial
    | waiting left right => exact of_pure ⟨hresult.1, hresult.2, hnext⟩
  | awaiting task next =>
    refine (taskExit? task).after fun found _ => ?_
    cases found with
    | none => exact of_pure hputs
    | some exit => exact (next exit).pollIn_steady hagain (hputs exit)

theorem Future.pollInAt_steady (depth : Nat) (future : Future ε ρ) (hputs : future.PutsBy register calls) :
    SteadyPoll register calls (future.pollInAt depth) (future.trailAt depth) := by
  induction depth generalizing future with
  | zero =>
    refine future.pollIn_steady (fun future hleft => ?_) hputs
    exact of_pure (a := Poll.pending future) hleft
  | succ depth ih => exact future.pollIn_steady ih hputs

end

/-! ### Runs -/

namespace Process

theorem advanceIn_steady (depth : Nat) {progress : Progress ε ρ} (hputs : progress.PutsBy register calls) :
    Steady register calls (advanceIn depth progress) (progress.trail depth) fun progress =>
      progress.PutsBy register calls := by
  cases progress with
  | ended exit => exact .of_pure trivial
  | running future =>
    refine (future.pollInAt_steady depth hputs).last fun result hresult => ?_
    cases result with
    | done exit => exact .of_pure trivial
    | pending future => exact .of_pure hresult

/-- A process as a run has made it that came by the given points. -/
structure IsAfter (register : String) (calls : (m : Mode) → Program ε ρ m → Prop) (past : List (Point ε ρ))
    (p : Process ε ρ) : Prop where
  root : p.root.PutsBy register calls
  session : p.session.IsAfter register calls past

theorem IsAfter.step {past : List (Point ε ρ)} {p : Process ε ρ} (hp : p.IsAfter register calls past)
    (depth : Nat) (choice : Choice) (heap : Heap) :
    Accounted register calls past (p.passed depth choice heap) ∧
      (p.stepIn depth choice heap).1.IsAfter register calls (past ++ p.passed depth choice heap) := by
  have houtside : CallChain.Binds {} := by simp [CallChain.Binds]
  cases choice with
  | root =>
    obtain ⟨haccounted, hroot, hsession⟩ :=
      advanceIn_steady depth hp.root past {} ⟨heap, p.session⟩ houtside hp.session
    exact ⟨haccounted, hroot, hsession⟩
  | task number =>
    rw [stepIn, passed]
    cases hget : p.session.tasks[number]? with
    | none => exact ⟨trivial, by simpa using hp⟩
    | some progress =>
      have hprogress := hp.session.tasks progress (List.mem_of_getElem? hget)
      obtain ⟨haccounted, hprogress', hsession⟩ :=
        advanceIn_steady depth hprogress past {} ⟨heap, p.session⟩ houtside hp.session
      refine ⟨haccounted, hp.root, hsession.holds, hsession.reported, hsession.wraps, fun other hmem => ?_⟩
      rcases List.mem_or_eq_of_mem_set hmem with hmem | rfl
      · exact hsession.tasks other hmem
      · exact hprogress'

theorem IsAfter.journey {past : List (Point ε ρ)} {p : Process ε ρ} (hp : p.IsAfter register calls past)
    (depth : Nat) (schedule : List (Choice × Heap)) :
    Accounted register calls past (p.journey depth schedule).1 ∧
      (p.journey depth schedule).2.IsAfter register calls (past ++ (p.journey depth schedule).1) := by
  induction schedule generalizing past p with
  | nil => exact ⟨trivial, by simpa [Process.journey] using hp⟩
  | cons choice schedule ih =>
    obtain ⟨hpassed, hstep⟩ := hp.step depth choice.1 choice.2
    obtain ⟨hjourney, hlast⟩ := ih hstep
    refine ⟨hpassed.append hjourney, ?_⟩
    rw [Process.journey, ← List.append_assoc]
    exact hlast

/-- At each point of a run, the register holds the context that was created there last. -/
theorem journey_holds {program : Program ε ρ .async} (hputs : program.PutsBy register calls) (id : Nat)
    (turns : List Turn) (depth : Nat) (schedule : List (Choice × Heap)) :
    let run := (ofProgram id turns program).journey depth schedule
    run.2.events = Point.reports run.1 ∧
      ∀ before point rest, run.1 = before ++ point :: rest →
        point.machine.find? (.register register) = Point.lastCreated register before ∧
          point.program.PutsBy register calls ∧ point.chain.Binds := by
  intro run
  have hstart : (ofProgram id turns program).IsAfter register calls [] := by
    refine ⟨hputs, ?_, rfl, ?_, ?_⟩
    · simp [ofProgram, Point.lastCreated]
    · simp [ofProgram]
    · simp [ofProgram]
  obtain ⟨haccounted, hlast⟩ := hstart.journey depth schedule
  refine ⟨hlast.session.reported, fun before point rest hrun => ?_⟩
  have hpoint : point.IsAfter register calls ([] ++ before) := Accounted.isAfter (hrun ▸ haccounted)
  exact ⟨hpoint.session.holds, hpoint.puts, hpoint.binds⟩

end Process

end

end RequestScope
