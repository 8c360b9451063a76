import RequestScope.Proofs.Extent.Restoration

/-!
# Futures that are wrapped

A program that was wrapped, or handed to a task, where a context was current is from then on polled in
the extent of that context and of no other, wherever the polls are made. Where no context was current
there is nothing to bind, and each poll is made in the extents that stand around its place.
-/

namespace RequestScope

variable {ε ρ : Type}

/-- A poll that will be made: the extents around the place, the innermost first, the bound on nesting,
and what becomes of the cells and the session before it. No context is lent out at the place. -/
structure Visit (ε ρ : Type) where
  extents : List (Option Handle)
  depth : Nat
  since : Scene ε ρ → Scene ε ρ

namespace Visit

/-- The machine as the poll finds it. -/
def machine (visit : Visit ε ρ) (x : Scene ε ρ) : Machine ε ρ :=
  (visit.since x).machine { extents := visit.extents }

/-- The same poll, made elsewhere. -/
def movedTo (extents : List (Option Handle)) (visit : Visit ε ρ) : Visit ε ρ := { visit with extents }

end Visit

/-- Polls a future at one place after the other, until it has ended. -/
def Future.attend : List (Visit ε ρ) → Future ε ρ → Scene ε ρ → Poll ε ρ .async × Scene ε ρ
  | [], future, x => (.pending future, x)
  | visit :: visits, future, x =>
    match future.pollAt visit.depth (visit.machine x) with
    | (.done exit, s) => (.done exit, s.scene)
    | (.pending future, s) => future.attend visits s.scene

/-- What a poll of a body leaves of the task around it if nothing is bound there. -/
def Poll.unbound : Poll ε ρ .async → Poll ε ρ .async
  | .done exit => .done exit
  | .pending body => .pending (.within .free body .ret)

namespace Future

/-! ### One poll -/

/-- Of the extents around it, a poll knows the innermost. -/
theorem pollInAt_congr (depth : Nat) (future : Future ε ρ) {chain chain' : CallChain}
    (hcurrent : chain.current = chain'.current) (hlent : chain.lent = chain'.lent) (x : Scene ε ρ) :
    future.pollInAt depth chain x = future.pollInAt depth chain' x := by
  have hmachine : x.machine chain = x.machine chain' := by
    rw [Scene.machine, Scene.machine, hcurrent, hlent]
  have hpoll := future.pollAt_realizes depth chain x
  have hpoll' := future.pollAt_realizes depth chain' x
  rw [hmachine, hpoll'] at hpoll
  obtain ⟨hresult, hrest⟩ := Prod.mk.inj hpoll
  have hscene : (future.pollInAt depth chain' x).2 = (future.pollInAt depth chain x).2 :=
    congrArg Machine.scene hrest
  exact Prod.ext hresult.symm hscene.symm

/-- With a context bound to its polls, a future is polled as if that context's extent were the only one
around the place. -/
theorem pollAt_held (own : Handle) (body : Future ε ρ) (visit : Visit ε ρ) (x : Scene ε ρ) :
    let alone := body.pollAt visit.depth ((visit.movedTo [some own]).machine x)
    (Future.within (.held (some own)) body .ret).pollAt visit.depth (visit.machine x) =
      (alone.1.under own, alone.2.scene.machine { extents := visit.extents }) := by
  intro alone
  let chain : CallChain := { extents := visit.extents }
  have halone : alone = _ :=
    body.pollAt_realizes visit.depth { extents := [some own] } (visit.since x)
  have hwithin : (Future.within (.held (some own)) body .ret).pollAt visit.depth (visit.machine x) = _ :=
    Future.pollAt_realizes visit.depth _ chain (visit.since x)
  have hinner : body.pollInAt visit.depth (chain.enter (some own)) (visit.since x) =
      body.pollInAt visit.depth { extents := [some own] } (visit.since x) := by
    have hcurrent : (chain.enter (some own)).current = CallChain.current { extents := [some own] } := rfl
    have hlent : (chain.enter (some own)).lent = CallChain.lent { extents := [some own] } := rfl
    exact body.pollInAt_congr visit.depth hcurrent hlent (visit.since x)
  rw [hwithin, halone, pollInAt_within, hinner]
  rfl

/-- Without a context bound to its polls, a future is polled in the extents around the place. -/
theorem pollAt_free (depth : Nat) (body : Future ε ρ) (s : Machine ε ρ) :
    (Future.within .free body .ret).pollAt depth s =
      ((body.pollAt depth s).1.unbound, (body.pollAt depth s).2) := by
  obtain ⟨again, hpoll⟩ := exists_pollAt (ε := ε) (ρ := ρ) depth
  rw [hpoll, poll, pollWithin]
  rcases body.poll again s with ⟨result, s'⟩
  cases result with
  | done exit =>
    cases exit with
    | returned value => rfl
    | panicked text => rfl
  | pending body => rfl

/-- Awaiting a wrapped program polls it as a task of its own would. -/
theorem pollAt_awaitWrapped (depth : Nat) (name : String) (s : Machine ε ρ) :
    (Future.ready (.awaitWrapped name .ret)).pollAt (depth + 1) s =
      match s.takeWrapped? name with
      | some (binding, body, s) => (Machine.task binding body).pollAt depth s
      | none => (.done (.panicked (awaitPanic name)), s) := by
  obtain ⟨again, hpoll⟩ := exists_pollAt (ε := ε) (ρ := ρ) depth
  rw [pollAt, hpoll, poll, Program.poll]
  rcases s.takeWrapped? name with _ | ⟨binding, body, s'⟩
  · rfl
  · rfl

/-! ### Poll after poll -/

theorem attend_held (own : Handle) (visits : List (Visit ε ρ)) (body : Future ε ρ) (x : Scene ε ρ) :
    let alone := body.attend (visits.map (·.movedTo [some own])) x
    (Future.within (.held (some own)) body .ret).attend visits x = (alone.1.under own, alone.2) := by
  induction visits generalizing body x with
  | nil => rfl
  | cons visit visits ih =>
    rw [List.map_cons, attend, attend, pollAt_held]
    have hdepth : (visit.movedTo [some own]).depth = visit.depth := rfl
    rw [hdepth]
    rcases body.pollAt visit.depth ((visit.movedTo [some own]).machine x) with ⟨result, s⟩
    cases result with
    | done exit => rfl
    | pending body => exact ih body s.scene

theorem attend_free (visits : List (Visit ε ρ)) (body : Future ε ρ) (x : Scene ε ρ) :
    (Future.within .free body .ret).attend visits x =
      ((body.attend visits x).1.unbound, (body.attend visits x).2) := by
  induction visits generalizing body x with
  | nil => rfl
  | cons visit visits ih =>
    rw [attend, attend, pollAt_free]
    rcases body.pollAt visit.depth (visit.machine x) with ⟨result, s⟩
    cases result with
    | done exit => rfl
    | pending body => exact ih body s.scene

end Future

namespace Machine

/-- What is wrapped, or handed to a task, keeps the context that is current at this moment. Wherever it
is polled from then on, it does what it does when all polls are made in the extent of that context and
in no other; but if no context was current, it does what it does unwrapped at the places of the polls. -/
theorem wrapping_fixes_extent (s : Machine ε ρ) (name : String) (body : Program ε ρ .async) :
    let binding := s.binding .current
    ((s.wrap name body).session.wraps.get? name = some (binding, body) ∧
      (s.spawn name true body).session.tasks = s.session.tasks ++ [.running (task binding body)] ∧
      ∀ (depth : Nat) (s' : Machine ε ρ),
        (Future.ready (.awaitWrapped name .ret)).pollAt (depth + 1) s' =
          match s'.takeWrapped? name with
          | some (binding, body, s') => (task binding body).pollAt depth s'
          | none => (.done (.panicked (awaitPanic name)), s')) ∧
    ∀ (visits : List (Visit ε ρ)) (x : Scene ε ρ),
      (task binding body).attend visits x =
        match s.find? .current with
        | some own =>
          let alone := (Future.ready body).attend (visits.map (·.movedTo [some own])) x
          (alone.1.under own, alone.2)
        | none =>
          let there := (Future.ready body).attend visits x
          (there.1.unbound, there.2) := by
  intro binding
  refine ⟨⟨?_, rfl, fun depth s' => Future.pollAt_awaitWrapped depth name s'⟩, fun visits x => ?_⟩
  · exact (SortedMap.get?_insert _ _ _ _).trans (if_pos rfl)
  · have hbinding : binding = .ofHandle? (s.find? .current) := rfl
    rw [hbinding]
    cases s.find? .current with
    | some own => exact Future.attend_held own visits (.ready body) x
    | none => exact Future.attend_free visits (.ready body) x

/-- A program that was wrapped where no context was current finds one when it is awaited in the extent
of one, and finds none when it is awaited outside. -/
theorem unbound_finds_current :
    let body : Program Unit Bool .async := .inspect .current fun found => .ret found.isSome
    let awaited : Program Unit Bool .async := .awaitWrapped "b" .ret
    let inside := Program.wrap "b" body (.create "a" .empty (.run (.register "a") awaited .ret))
    let outside := Program.wrap "b" body (.create "a" .empty awaited)
    ((Process.ofProgram 0 [] inside).finish 1 1 {}).1.exit? = some (.returned true) ∧
      ((Process.ofProgram 0 [] outside).finish 1 1 {}).1.exit? = some (.returned false) :=
  ⟨rfl, rfl⟩

end Machine

end RequestScope
