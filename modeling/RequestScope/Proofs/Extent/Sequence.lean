import RequestScope.Proofs.Extent.Refinement

/-!
# One program behind another

`Program.bind` puts a program behind another one while neither runs. This module says what that means
while they run: a poll of the two is a poll of the first, and in the same poll, if it returned, the
beginning of the second; if the first was suspended, what is left is what is left of the first with the
second still behind it.
-/

namespace RequestScope

variable {ε ρ : Type}

open Scoped

/-- What is left of a program that has another one behind it. -/
def Future.bind : Future ε ρ → (ρ → Program ε ρ .async) → Future ε ρ
  | .ready program, f => .ready (program.bind f)
  | .ended value, f => .ready (f value)
  | .within binding body next, f => .within binding body fun value => (next value).bind f
  | .caught body next, f => .caught body fun exit => (next exit).bind f
  | .joined left right next, f => .joined left right fun a b => (next a b).bind f
  | .awaiting task next, f => .awaiting task fun exit => (next exit).bind f

/-- Goes on behind a poll. -/
def Poll.goOn (againIn : Future ε ρ → Scoped ε ρ (Poll ε ρ .async)) {m : Mode} :
    (ρ → Program ε ρ m) → Poll ε ρ m → Scoped ε ρ (Poll ε ρ m)
  | f, .done (.returned value) => (f value).pollIn againIn
  | _, .done (.panicked text) => return .done (.panicked text)
  | f, .pending future => return .pending (future.bind f)

section

variable {againIn : Future ε ρ → Scoped ε ρ (Poll ε ρ .async)}

theorem Program.pollIn_bind {m : Mode} (program : Program ε ρ m) (f : ρ → Program ε ρ m) :
    (program.bind f).pollIn againIn = program.pollIn againIn >>= Poll.goOn againIn f := by
  induction program with
  | ret value => rfl
  | panic text => rfl
  | emit event next ih =>
    rw [Program.bind, Program.pollIn, Program.pollIn, bind_assoc]
    exact bind_congr fun _ => ih f
  | access target change next ih =>
    rw [Program.bind, Program.pollIn, Program.pollIn, bind_assoc]
    refine bind_congr fun found => ?_
    cases found with
    | none => exact ih none f
    | some h =>
      rw [bind_assoc]
      exact bind_congr fun before => ih (some before) f
  | hold target register next ih =>
    rw [Program.bind, Program.pollIn, Program.pollIn, bind_assoc]
    refine bind_congr fun found => ?_
    cases found with
    | none => exact ih false f
    | some h =>
      rw [bind_assoc]
      exact bind_congr fun _ => ih true f
  | create register entries next ih =>
    rw [Program.bind, Program.pollIn, Program.pollIn, bind_assoc]
    exact bind_congr fun _ => ih f
  | shares target other next ih =>
    rw [Program.bind, Program.pollIn, Program.pollIn, bind_assoc]
    refine bind_congr fun found => ?_
    rw [bind_assoc]
    refine bind_congr fun found' => ?_
    cases found with
    | none => exact ih none f
    | some h =>
      cases found' with
      | none => exact ih none f
      | some h' => exact ih (some (decide (h = h'))) f
  | withCurrent body next ihbody ih =>
    rw [Program.bind, Program.pollIn, Program.pollIn, bind_assoc]
    refine bind_congr fun found => ?_
    cases found with
    | none => exact ih none f
    | some h =>
      rw [bind_assoc]
      refine bind_congr fun result => ?_
      cases result with
      | done exit =>
        cases exit with
        | returned value => exact ih (some value) f
        | panicked text => rfl
  | runSync target body next ihbody ih =>
    rw [Program.bind, Program.pollIn, Program.pollIn, bind_assoc]
    refine bind_congr fun binding => ?_
    rw [bind_assoc]
    refine bind_congr fun result => ?_
    cases result with
    | done exit =>
      cases exit with
      | returned value => exact ih value f
      | panicked text => rfl
  | catchSync body next ihbody ih =>
    rw [Program.bind, Program.pollIn, Program.pollIn, bind_assoc]
    refine bind_congr fun result => ?_
    cases result with
    | done exit => exact ih exit f
  | run target body next ihbody ih =>
    rw [Program.bind, Program.pollIn, Program.pollIn, bind_assoc]
    refine bind_congr fun binding => ?_
    rw [bind_assoc]
    refine bind_congr fun result => ?_
    cases result with
    | done exit =>
      cases exit with
      | returned value => exact ih value f
      | panicked text => rfl
    | pending future => rfl
  | catchPanic body next ihbody ih =>
    rw [Program.bind, Program.pollIn, Program.pollIn, bind_assoc]
    refine bind_congr fun result => ?_
    cases result with
    | done exit => exact ih exit f
    | pending future => rfl
  | wrap name body next ihbody ih =>
    rw [Program.bind, Program.pollIn, Program.pollIn, bind_assoc]
    refine bind_congr fun binding => ?_
    rw [bind_assoc]
    exact bind_congr fun _ => ih f
  | awaitWrapped name next ih =>
    rw [Program.bind, Program.pollIn, Program.pollIn, bind_assoc]
    refine bind_congr fun found => ?_
    cases found with
    | none => rfl
    | some wrapped =>
      rw [bind_assoc]
      refine bind_congr fun result => ?_
      cases result with
      | done exit =>
        cases exit with
        | returned value => exact ih value f
        | panicked text => rfl
      | pending future => rfl
  | spawn name wrapped body next ihbody ih =>
    rw [Program.bind, Program.pollIn, Program.pollIn, bind_assoc]
    refine bind_congr fun binding => ?_
    rw [bind_assoc]
    exact bind_congr fun _ => ih f
  | awaitTask name next ih =>
    rw [Program.bind, Program.pollIn, Program.pollIn, bind_assoc]
    refine bind_congr fun found => ?_
    cases found with
    | none => rfl
    | some task =>
      rw [bind_assoc]
      refine bind_congr fun found => ?_
      cases found with
      | none => rfl
      | some exit => exact ih exit f
  | pause next ih => rfl
  | join left right next ihleft ihright ih =>
    rw [Program.bind, Program.pollIn, Program.pollIn, bind_assoc]
    refine bind_congr fun result => ?_
    cases result with
    | both a b => exact ih a b f
    | panicked text => rfl
    | waiting left right => rfl
  | abandon target polls body next ihbody ih =>
    cases polls with
    | zero =>
      rw [Program.bind, Program.pollIn, Program.pollIn]
      exact ih none f
    | succ polls =>
      rw [Program.bind, Program.pollIn, Program.pollIn, bind_assoc]
      refine bind_congr fun binding => ?_
      rw [bind_assoc]
      refine bind_congr fun result => ?_
      cases result with
      | done exit =>
        cases exit with
        | returned value => exact ih (some value) f
        | panicked text => rfl
      | pending future =>
        rw [bind_assoc]
        refine bind_congr fun found => ?_
        cases found with
        | none => exact ih none f
        | some exit =>
          cases exit with
          | returned value => exact ih (some value) f
          | panicked text => rfl

theorem Future.pollIn_bind (future : Future ε ρ) (f : ρ → Program ε ρ .async) :
    (future.bind f).pollIn againIn = future.pollIn againIn >>= Poll.goOn againIn f := by
  cases future with
  | ready program => exact program.pollIn_bind f
  | ended value => rfl
  | within binding body next =>
    rw [Future.bind, Future.pollIn, Future.pollIn, bind_assoc]
    refine bind_congr fun result => ?_
    cases result with
    | done exit =>
      cases exit with
      | returned value => exact (next value).pollIn_bind f
      | panicked text => rfl
    | pending future => rfl
  | caught body next =>
    rw [Future.bind, Future.pollIn, Future.pollIn, bind_assoc]
    refine bind_congr fun result => ?_
    cases result with
    | done exit => exact (next exit).pollIn_bind f
    | pending future => rfl
  | joined left right next =>
    rw [Future.bind, Future.pollIn, Future.pollIn, bind_assoc]
    refine bind_congr fun result => ?_
    cases result with
    | both a b => exact (next a b).pollIn_bind f
    | panicked text => rfl
    | waiting left right => rfl
  | awaiting task next =>
    rw [Future.bind, Future.pollIn, Future.pollIn, bind_assoc]
    refine bind_congr fun found => ?_
    cases found with
    | none => rfl
    | some exit => exact (next exit).pollIn_bind f

end

/-- A poll of a future that has a program behind it is a poll of the future that goes on with the
program. -/
theorem Future.exists_pollInAt_bind (depth : Nat) :
    ∃ againIn : Future ε ρ → Scoped ε ρ (Poll ε ρ .async), ∀ (future : Future ε ρ) f,
      (future.bind f).pollInAt depth = future.pollInAt depth >>= Poll.goOn againIn f := by
  obtain ⟨againIn, hpoll⟩ := Future.exists_pollInAt (ε := ε) (ρ := ρ) depth
  rw [hpoll]
  exact ⟨againIn, fun future f => future.pollIn_bind f⟩

end RequestScope
