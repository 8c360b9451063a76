import RequestScope.Proofs.Extent.Points

/-!
# What programs put into a register

Any program may put contexts into any register. `PutsBy` says of a program, and of all that may be left of
one, that it puts contexts into a certain register where certain things are called and nowhere else.
-/

namespace RequestScope

variable {ε ρ : Type}

/-- A program that puts contexts into a register by creating them where `calls` holds of what is to be
done. To put there what is there already is no matter. -/
def Program.PutsBy (register : String) (calls : (m : Mode) → Program ε ρ m → Prop) {m : Mode} :
    Program ε ρ m → Prop
  | .ret _ => True
  | .panic _ => True
  | .emit _ next => next.PutsBy register calls
  | .access _ _ next => ∀ before, (next before).PutsBy register calls
  | .hold target register' next =>
    (register' = register → target = .register register) ∧ ∀ found, (next found).PutsBy register calls
  | .create register' entries next =>
    (register' = register → calls m (.create register' entries next)) ∧ next.PutsBy register calls
  | .shares _ _ next => ∀ same, (next same).PutsBy register calls
  | .withCurrent body next => body.PutsBy register calls ∧ ∀ value, (next value).PutsBy register calls
  | .runSync _ body next => body.PutsBy register calls ∧ ∀ value, (next value).PutsBy register calls
  | .catchSync body next => body.PutsBy register calls ∧ ∀ exit, (next exit).PutsBy register calls
  | .run _ body next => body.PutsBy register calls ∧ ∀ value, (next value).PutsBy register calls
  | .catchPanic body next => body.PutsBy register calls ∧ ∀ exit, (next exit).PutsBy register calls
  | .wrap _ body next => body.PutsBy register calls ∧ next.PutsBy register calls
  | .awaitWrapped _ next => ∀ value, (next value).PutsBy register calls
  | .spawn _ _ body next => body.PutsBy register calls ∧ next.PutsBy register calls
  | .awaitTask _ next => ∀ exit, (next exit).PutsBy register calls
  | .pause next => next.PutsBy register calls
  | .join left right next =>
    left.PutsBy register calls ∧ right.PutsBy register calls ∧ ∀ a b, (next a b).PutsBy register calls
  | .abandon _ _ body next => body.PutsBy register calls ∧ ∀ value, (next value).PutsBy register calls

/-- A binding that binds a context, if it binds at all. -/
def Binding.Binds (binding : Binding) : Prop := binding ≠ .held none

/-- A chain each of whose extents has a context. -/
def CallChain.Binds (chain : CallChain) : Prop := ∀ own ∈ chain.extents, own ≠ none

/-- A future with nothing but such programs to go on with, and such bindings. -/
def Future.PutsBy (register : String) (calls : (m : Mode) → Program ε ρ m → Prop) : Future ε ρ → Prop
  | .ready program => program.PutsBy register calls
  | .ended _ => True
  | .within binding body next =>
    binding.Binds ∧ body.PutsBy register calls ∧ ∀ value, (next value).PutsBy register calls
  | .caught body next => body.PutsBy register calls ∧ ∀ exit, (next exit).PutsBy register calls
  | .joined left right next =>
    left.PutsBy register calls ∧ right.PutsBy register calls ∧ ∀ a b, (next a b).PutsBy register calls
  | .awaiting _ next => ∀ exit, (next exit).PutsBy register calls

def Poll.PutsBy (register : String) (calls : (m : Mode) → Program ε ρ m → Prop) {m : Mode} :
    Poll ε ρ m → Prop
  | .done _ => True
  | .pending future => future.PutsBy register calls

def PairPoll.PutsBy (register : String) (calls : (m : Mode) → Program ε ρ m → Prop) :
    PairPoll ε ρ → Prop
  | .waiting left right => left.PutsBy register calls ∧ right.PutsBy register calls
  | _ => True

def Progress.PutsBy (register : String) (calls : (m : Mode) → Program ε ρ m → Prop) :
    Progress ε ρ → Prop
  | .running future => future.PutsBy register calls
  | .ended _ => True

section

variable {register : String} {calls : (m : Mode) → Program ε ρ m → Prop}

/-- Programs that are put one behind the other put contexts into a register as both do, if what is called
may be followed by anything. -/
theorem Program.PutsBy.bind {m : Mode} {program : Program ε ρ m} {next : ρ → Program ε ρ m}
    (hprogram : program.PutsBy register calls) (hnext : ∀ value, (next value).PutsBy register calls)
    (hcalls : ∀ {m : Mode} (program : Program ε ρ m) (next : ρ → Program ε ρ m),
      calls m program → calls m (program.bind next)) : (program.bind next).PutsBy register calls := by
  induction program with
  | ret value => exact hnext value
  | panic text => exact hprogram
  | emit event rest ih => exact ih hprogram hnext
  | access target change rest ih => exact fun before => ih before (hprogram before) hnext
  | hold target register' rest ih => exact ⟨hprogram.1, fun found => ih found (hprogram.2 found) hnext⟩
  | create register' entries rest ih => exact ⟨fun heq => hcalls _ next (hprogram.1 heq), ih hprogram.2 hnext⟩
  | shares target other rest ih => exact fun same => ih same (hprogram same) hnext
  | withCurrent body rest ihbody ih => exact ⟨hprogram.1, fun value => ih value (hprogram.2 value) hnext⟩
  | runSync target body rest ihbody ih => exact ⟨hprogram.1, fun value => ih value (hprogram.2 value) hnext⟩
  | catchSync body rest ihbody ih => exact ⟨hprogram.1, fun exit => ih exit (hprogram.2 exit) hnext⟩
  | run target body rest ihbody ih => exact ⟨hprogram.1, fun value => ih value (hprogram.2 value) hnext⟩
  | catchPanic body rest ihbody ih => exact ⟨hprogram.1, fun exit => ih exit (hprogram.2 exit) hnext⟩
  | wrap name body rest ihbody ih => exact ⟨hprogram.1, ih hprogram.2 hnext⟩
  | awaitWrapped name rest ih => exact fun value => ih value (hprogram value) hnext
  | spawn name wrapped body rest ihbody ih => exact ⟨hprogram.1, ih hprogram.2 hnext⟩
  | awaitTask name rest ih => exact fun exit => ih exit (hprogram exit) hnext
  | pause rest ih => exact ih hprogram hnext
  | join left right rest ihleft ihright ih =>
    exact ⟨hprogram.1, hprogram.2.1, fun a b => ih a b (hprogram.2.2 a b) hnext⟩
  | abandon target polls body rest ihbody ih =>
    exact ⟨hprogram.1, fun value => ih value (hprogram.2 value) hnext⟩

theorem Point.calls_of_created {point : Point ε ρ} {own : Handle}
    (hputs : point.program.PutsBy register calls) (hcreated : point.created? register = some own) :
    calls point.mode point.program := by
  obtain ⟨program, chain, x⟩ := point
  cases program with
  | create register' entries next =>
    by_cases heq : register' = register
    · exact hputs.1 heq
    · simp [created?, heq] at hcreated
  | _ => simp [created?] at hcreated

theorem Binding.binds_ofHandle? (found : Option Handle) : (Binding.ofHandle? found).Binds := by
  cases found <;> simp [Binding.Binds, Binding.ofHandle?]

theorem CallChain.Binds.enter {chain : CallChain} {own : Option Handle} (hchain : chain.Binds)
    (hown : (Binding.held own).Binds) : (chain.enter own).Binds := by
  intro other hother
  rcases List.mem_cons.mp hother with rfl | hother
  · intro hnone
    exact hown (congrArg Binding.held hnone)
  · exact hchain other hother

theorem PairPoll.PutsBy.ofSides {left right : Future ε ρ} (hleft : left.PutsBy register calls)
    (hright : right.PutsBy register calls) : (PairPoll.ofSides left right).PutsBy register calls := by
  unfold PairPoll.ofSides
  split
  · trivial
  · exact ⟨hleft, hright⟩

end

end RequestScope
