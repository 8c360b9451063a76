import RequestScope.Proofs.Extent.Refinement

/-!
# Every exit restores the slot

A poll ends in one of four ways and a future may also be dropped; none of them leaves anything behind
in the slot. For one poll this is what `Realizes` says of the machine, since a call chain is never
changed. `Runs` puts many runs next to each other, to be begun, polled, dropped and called in any
order and with any panic caught outside, so that a context that was forgotten by one of them would be
seen by the next.
-/

namespace RequestScope

variable {ε ρ α : Type}

/-- A machine as a scene. -/
def Machine.scene (s : Machine ε ρ) : Scene ε ρ := ⟨s.world.heap, s.session⟩

/-- A place in the code that looks like the one which a machine has reached. -/
def Machine.chain (s : Machine ε ρ) : CallChain := ⟨[s.world.slot], s.world.lent⟩

/-- Nothing is left behind where a call chain can be followed. -/
theorem Realizes.restores {run : Machine ε ρ → α × Machine ε ρ} {act : Scoped ε ρ α}
    (h : Realizes run act) (s : Machine ε ρ) :
    (run s).2.world.slot = s.world.slot ∧ (run s).2.world.lent = s.world.lent := by
  have hrun : run s = _ := h s.chain s.scene
  rw [hrun]
  exact ⟨rfl, rfl⟩

/-! ### Single runs -/

/-- A context bound to a program that has not been polled. -/
def Future.run (own : Handle) (body : Program ε ρ .async) : Future ε ρ :=
  .within (.held (some own)) (.ready body) .ret

/-- What a poll of a body leaves of the run around it. -/
def Poll.under (own : Handle) : Poll ε ρ .async → Poll ε ρ .async
  | .done exit => .done exit
  | .pending body => .pending (.within (.held (some own)) body .ret)

/-- Binds a context while a program runs that does not suspend. -/
def Program.callSync (depth : Nat) (own : Handle) (body : Program ε ρ .sync) (s : Machine ε ρ) :
    Poll ε ρ .sync × Machine ε ρ :=
  match pollWithin (body.poll (Future.pollAt depth)) (.held (some own)) s with
  | (result, _, s) => (result, s)

theorem Program.callSync_realizes (depth : Nat) (own : Handle) (body : Program ε ρ .sync) :
    Realizes (body.callSync depth own)
      (Scoped.inside (.held (some own)) (body.pollIn (Future.pollInAt depth))) := by
  intro chain x
  have hbody := body.poll_realizes (Future.pollAt_realizes (ε := ε) (ρ := ρ) depth)
  rw [Program.callSync, pollWithin_machine hbody]

/-- A poll of a run is a poll of its body in the extent. -/
theorem Future.pollInAt_within (depth : Nat) (own : Handle) (body : Future ε ρ) (chain : CallChain)
    (x : Scene ε ρ) :
    (Future.within (.held (some own)) body .ret).pollInAt depth chain x =
      if chain.isLent then (.done (.panicked lentPanic), x)
      else
        ((body.pollInAt depth (chain.enter (some own)) x).1.under own,
          (body.pollInAt depth (chain.enter (some own)) x).2) := by
  obtain ⟨againIn, hpoll⟩ := Future.exists_pollInAt (ε := ε) (ρ := ρ) depth
  rw [hpoll, Future.pollIn, Scoped.bind_apply, Scoped.inside_held]
  by_cases hlent : chain.isLent
  · simp only [if_pos hlent]
    rfl
  · simp only [if_neg hlent]
    rcases body.pollIn againIn (chain.enter (some own)) x with ⟨result, x'⟩
    cases result with
    | done exit =>
      cases exit with
      | returned value => rfl
      | panicked text => rfl
    | pending body => rfl

/-- What a body returns, the run around it returns. -/
theorem Future.pollAt_within (depth : Nat) (own : Handle) (body : Future ε ρ) (s : Machine ε ρ) :
    ((Future.within (.held (some own)) body .ret).pollAt depth s).1 =
      if s.isLent then .done (.panicked lentPanic)
      else (body.pollAt depth (s.exchange (some own)).2).1.under own := by
  have hrun : (Future.within (.held (some own)) body .ret).pollAt depth s = _ :=
    Future.pollAt_realizes depth _ s.chain s.scene
  have hbody : body.pollAt depth (s.exchange (some own)).2 = _ :=
    body.pollAt_realizes depth (s.chain.enter (some own)) s.scene
  have hlent : s.chain.isLent = s.isLent := rfl
  rw [hrun, hbody, Future.pollInAt_within, hlent]
  split <;> rfl

theorem Program.callSync_result (depth : Nat) (own : Handle) (body : Program ε ρ .sync)
    (s : Machine ε ρ) :
    (body.callSync depth own s).1 =
      if s.isLent then .done (.panicked lentPanic)
      else (body.poll (Future.pollAt depth) (s.exchange (some own)).2).1 := by
  have hcall : body.callSync depth own s = _ := body.callSync_realizes depth own s.chain s.scene
  have hbody : body.poll (Future.pollAt depth) (s.exchange (some own)).2 = _ :=
    body.poll_realizes (Future.pollAt_realizes depth) (s.chain.enter (some own)) s.scene
  have hlent : s.chain.isLent = s.isLent := rfl
  rw [hcall, hbody, Scoped.inside_held, hlent]
  split <;> rfl

/-! ### Runs side by side -/

/-- Futures that are kept, or are gone, and the machine on which they are polled. -/
structure Runs (ε ρ : Type) where
  futures : List (Option (Future ε ρ))
  machine : Machine ε ρ

/-- What can be done with runs from outside all extents. -/
inductive Deed (ε ρ : Type)
  | begin (own : Handle) (body : Program ε ρ .async)
  | poll (number : Nat)
  | drop (number : Nat)
  | call (own : Handle) (body : Program ε ρ .sync)

namespace Runs

/-- Does one thing. A future that has returned or panicked is gone; the panic is caught here. -/
def perform (depth : Nat) (runs : Runs ε ρ) : Deed ε ρ → Runs ε ρ
  | .begin own body => { runs with futures := runs.futures ++ [some (.run own body)] }
  | .poll number =>
    match runs.futures[number]? with
    | some (some future) =>
      match future.pollAt depth runs.machine with
      | (.done _, s) => ⟨runs.futures.set number none, s⟩
      | (.pending future, s) => ⟨runs.futures.set number (some future), s⟩
    | _ => runs
  | .drop number =>
    match runs.futures[number]? with
    | some (some future) => ⟨runs.futures.set number none, future.drop runs.machine⟩
    | _ => runs
  | .call own body => { runs with machine := (body.callSync depth own runs.machine).2 }

/-- Does things in a row. -/
def performAll (depth : Nat) (runs : Runs ε ρ) (deeds : List (Deed ε ρ)) : Runs ε ρ :=
  deeds.foldl (perform depth) runs

theorem perform_restores (depth : Nat) (runs : Runs ε ρ) (deed : Deed ε ρ) :
    (runs.perform depth deed).machine.world.slot = runs.machine.world.slot ∧
      (runs.perform depth deed).machine.world.lent = runs.machine.world.lent := by
  cases deed with
  | begin own body => exact ⟨rfl, rfl⟩
  | poll number =>
    rw [perform]
    rcases runs.futures[number]? with _ | _ | future
    · exact ⟨rfl, rfl⟩
    · exact ⟨rfl, rfl⟩
    · have hpoll : future.pollAt depth runs.machine = _ :=
        future.pollAt_realizes depth runs.machine.chain runs.machine.scene
      simp only [hpoll]
      rcases future.pollInAt depth runs.machine.chain runs.machine.scene with ⟨_ | _, x⟩
      · exact ⟨rfl, rfl⟩
      · exact ⟨rfl, rfl⟩
  | drop number =>
    rw [perform]
    rcases runs.futures[number]? with _ | _ | future
    · exact ⟨rfl, rfl⟩
    · exact ⟨rfl, rfl⟩
    · simp only [Future.drop_eq, and_self]
  | call own body => exact (body.callSync_realizes depth own).restores runs.machine

theorem performAll_restores (depth : Nat) (runs : Runs ε ρ) (deeds : List (Deed ε ρ)) :
    (runs.performAll depth deeds).machine.world.slot = runs.machine.world.slot ∧
      (runs.performAll depth deeds).machine.world.lent = runs.machine.world.lent := by
  induction deeds generalizing runs with
  | nil => exact ⟨rfl, rfl⟩
  | cons deed deeds ih =>
    obtain ⟨hslot, hlent⟩ := ih (runs.perform depth deed)
    obtain ⟨hslot', hlent'⟩ := runs.perform_restores depth deed
    exact ⟨hslot.trans hslot', hlent.trans hlent'⟩

end Runs

/-- However a poll of a run ends, and wherever a run is dropped, the slot holds what it held before,
and what the body returned is returned. So when any runs have been begun, polled, dropped and called
in any order, no context is current outside, and a later run finds its own context alone. -/
theorem Runs.exits_restore (depth : Nat) :
    (∀ (s : Machine ε ρ) (future : Future ε ρ),
      (future.pollAt depth s).2.world.slot = s.world.slot ∧ future.drop s = s) ∧
    (∀ (s : Machine ε ρ) (own : Handle) (body : Program ε ρ .sync),
      (body.callSync depth own s).2.world.slot = s.world.slot ∧
      (body.callSync depth own s).1 =
        if s.isLent then .done (.panicked lentPanic)
        else (body.poll (Future.pollAt depth) (s.exchange (some own)).2).1) ∧
    (∀ (s : Machine ε ρ) (own : Handle) (body : Future ε ρ),
      ((Future.within (.held (some own)) body .ret).pollAt depth s).1 =
        if s.isLent then .done (.panicked lentPanic)
        else (body.pollAt depth (s.exchange (some own)).2).1.under own) ∧
    ∀ (heap : Heap) (session : Session ε ρ) (deeds : List (Deed ε ρ)),
      let after := (Runs.performAll depth ⟨[], ⟨{ heap }, session⟩⟩ deeds).machine
      after.find? .current = none ∧
      ∀ (own : Handle) (body : Program ε ρ .async),
        let alone := (Future.ready body).pollInAt depth { extents := [some own] } after.scene
        (Future.run own body).pollAt depth after = (alone.1.under own, alone.2.machine {}) := by
  refine ⟨fun s future => ⟨((future.pollAt_realizes depth).restores s).1, future.drop_eq s⟩,
    fun s own body =>
      ⟨((body.callSync_realizes depth own).restores s).1, body.callSync_result depth own s⟩,
    fun s own body => body.pollAt_within depth own s, fun heap session deeds => ?_⟩
  obtain ⟨hslot, hlent⟩ := performAll_restores depth ⟨[], ⟨{ heap }, session⟩⟩ deeds
  generalize (Runs.performAll depth ⟨[], ⟨{ heap }, session⟩⟩ deeds).machine = after at hslot hlent
  refine ⟨hslot, fun own body => ?_⟩
  have hafter : after = after.scene.machine {} := by
    obtain ⟨⟨heap, slot, lent⟩, session⟩ := after
    cases hslot
    cases hlent
    rfl
  have hpoll := (Future.run own body).pollAt_realizes depth {} after.scene
  rw [← hafter, Future.run, Future.pollInAt_within] at hpoll
  exact hpoll

end RequestScope
