import Mathlib.Data.Set.Insert
import RequestScope.Proofs.Extent.Refinement

/-!
# Names and kin

Several programs may share a session. One that uses names of its own, for registers and for what it wraps
and spawns, and that is polled where nothing but its own cells is current, has no way to what the others
hold. Its kin are the tasks and cells that it has made; they grow with each poll. `Kin.Within` says of a
computation that it depends on its names and kin alone and changes nothing else, and that what it leaves
behind has the kin with what was made meanwhile, and nothing more.
-/

namespace RequestScope

variable {ε ρ α β : Type}

/-! ### Names -/

/-- A context that is current, or lent, or in one of some registers. -/
def Target.Among (names : Set String) : Target → Prop
  | .current => True
  | .lent => True
  | .register name => name ∈ names

/-- A program that uses some names only. -/
def Program.Among (names : Set String) {m : Mode} : Program ε ρ m → Prop
  | .ret _ => True
  | .panic _ => True
  | .emit _ next => next.Among names
  | .access target _ next => target.Among names ∧ ∀ before, (next before).Among names
  | .hold target register next =>
    target.Among names ∧ register ∈ names ∧ ∀ found, (next found).Among names
  | .create register _ next => register ∈ names ∧ next.Among names
  | .shares target other next =>
    target.Among names ∧ other.Among names ∧ ∀ same, (next same).Among names
  | .withCurrent body next => body.Among names ∧ ∀ value, (next value).Among names
  | .runSync target body next =>
    target.Among names ∧ body.Among names ∧ ∀ value, (next value).Among names
  | .catchSync body next => body.Among names ∧ ∀ exit, (next exit).Among names
  | .run target body next =>
    target.Among names ∧ body.Among names ∧ ∀ value, (next value).Among names
  | .catchPanic body next => body.Among names ∧ ∀ exit, (next exit).Among names
  | .wrap name body next => name ∈ names ∧ body.Among names ∧ next.Among names
  | .awaitWrapped name next => name ∈ names ∧ ∀ value, (next value).Among names
  | .spawn name _ body next => name ∈ names ∧ body.Among names ∧ next.Among names
  | .awaitTask name next => name ∈ names ∧ ∀ exit, (next exit).Among names
  | .pause next => next.Among names
  | .join left right next => left.Among names ∧ right.Among names ∧ ∀ a b, (next a b).Among names
  | .abandon target _ body next =>
    target.Among names ∧ body.Among names ∧ ∀ value, (next value).Among names

/-! ### Kin -/

/-- Tasks and cells that belong together. -/
@[ext] structure Kin where
  tasks : Set Nat
  cells : Set Handle

namespace Kin

instance : LE Kin := ⟨fun kin kin' => kin.tasks ⊆ kin'.tasks ∧ kin.cells ⊆ kin'.cells⟩

theorem le_refl (kin : Kin) : kin ≤ kin := ⟨subset_rfl, subset_rfl⟩

theorem le_trans {kin kin' kin'' : Kin} (h : kin ≤ kin') (h' : kin' ≤ kin'') : kin ≤ kin'' :=
  ⟨h.1.trans h'.1, h.2.trans h'.2⟩

/-- All other tasks and cells. -/
def others (kin : Kin) : Kin := ⟨kin.tasksᶜ, kin.cellsᶜ⟩

/-- The kin with what a session has made from one moment to another. -/
def grown (kin : Kin) (s s' : Session ε ρ) : Kin where
  tasks := kin.tasks ∪ {task | s.tasks.length ≤ task ∧ task < s'.tasks.length}
  cells := kin.cells ∪ {h | h.owner = s.id ∧ s.made ≤ h.serial ∧ h.serial < s'.made}

theorem le_grown (kin : Kin) (s s' : Session ε ρ) : kin ≤ kin.grown s s' :=
  ⟨Set.subset_union_left, Set.subset_union_left⟩

section

variable (kin : Kin) {s s' : Session ε ρ}

theorem tasks_grown_of_still (hlength : s'.tasks.length = s.tasks.length) :
    (kin.grown s s').tasks = kin.tasks := by
  have hempty : {task | s.tasks.length ≤ task ∧ task < s'.tasks.length} = ∅ := by
    ext task
    simp only [hlength, Set.mem_ofPred_eq, Set.mem_empty_iff_false, iff_false]
    omega
  rw [grown, hempty, Set.union_empty]

theorem cells_grown_of_still (hmade : s'.made = s.made) : (kin.grown s s').cells = kin.cells := by
  have hempty : {h : Handle | h.owner = s.id ∧ s.made ≤ h.serial ∧ h.serial < s'.made} = ∅ := by
    ext h
    simp only [hmade, Set.mem_ofPred_eq, Set.mem_empty_iff_false, iff_false]
    omega
  rw [grown, hempty, Set.union_empty]

theorem grown_eq_self (hmade : s'.made = s.made) (hlength : s'.tasks.length = s.tasks.length) :
    kin.grown s s' = kin :=
  Kin.ext (kin.tasks_grown_of_still hlength) (kin.cells_grown_of_still hmade)

theorem grown_of_made (hmade : s'.made = s.made + 1) (hlength : s'.tasks.length = s.tasks.length) :
    kin.grown s s' = ⟨kin.tasks, kin.cells ∪ {⟨s.id, s.made⟩}⟩ := by
  have hnew : {h : Handle | h.owner = s.id ∧ s.made ≤ h.serial ∧ h.serial < s'.made} = {⟨s.id, s.made⟩} := by
    ext ⟨owner, serial⟩
    simp only [hmade, Set.mem_ofPred_eq, Set.mem_singleton_iff, Handle.mk.injEq]
    omega
  exact Kin.ext (kin.tasks_grown_of_still hlength) (congrArg (kin.cells ∪ ·) hnew)

theorem grown_of_started (hmade : s'.made = s.made) (hlength : s'.tasks.length = s.tasks.length + 1) :
    kin.grown s s' = ⟨kin.tasks ∪ {s.tasks.length}, kin.cells⟩ := by
  have hnew : {task | s.tasks.length ≤ task ∧ task < s'.tasks.length} = {s.tasks.length} := by
    ext task
    simp only [hlength, Set.mem_ofPred_eq, Set.mem_singleton_iff]
    omega
  exact Kin.ext (congrArg (kin.tasks ∪ ·) hnew) (kin.cells_grown_of_still hmade)

end

theorem others_le_others {kin kin' : Kin} (h : kin ≤ kin') : kin'.others ≤ kin.others :=
  ⟨fun _ hnot hmem => hnot (h.1 hmem), fun _ hnot hmem => hnot (h.2 hmem)⟩

end Kin

/-! ### What belongs to the kin -/

/-- A binding to a cell of the kin, if it binds a context. -/
def Binding.Of (kin : Kin) (binding : Binding) : Prop :=
  ∀ h, binding = .held (some h) → h ∈ kin.cells

/-- A future with such bindings and programs, that waits for tasks of the kin only. -/
def Future.Of (names : Set String) (kin : Kin) : Future ε ρ → Prop
  | .ready program => program.Among names
  | .ended _ => True
  | .within binding body next =>
    binding.Of kin ∧ body.Of names kin ∧ ∀ value, (next value).Among names
  | .caught body next => body.Of names kin ∧ ∀ exit, (next exit).Among names
  | .joined left right next =>
    left.Of names kin ∧ right.Of names kin ∧ ∀ a b, (next a b).Among names
  | .awaiting task next => task ∈ kin.tasks ∧ ∀ exit, (next exit).Among names

def Progress.Of (names : Set String) (kin : Kin) : Progress ε ρ → Prop
  | .running future => future.Of names kin
  | .ended _ => True

def Poll.Of (names : Set String) (kin : Kin) {m : Mode} : Poll ε ρ m → Prop
  | .done _ => True
  | .pending future => future.Of names kin

def PairPoll.Of (names : Set String) (kin : Kin) : PairPoll ε ρ → Prop
  | .waiting left right => left.Of names kin ∧ right.Of names kin
  | _ => True

/-- A place in the code where no context is current or lent but those of the kin. -/
structure CallChain.Of (kin : Kin) (chain : CallChain) : Prop where
  current : ∀ h, chain.current = some h → h ∈ kin.cells
  lent : ∀ h ∈ chain.lent, h ∈ kin.cells

/-- A session whose kin have nothing but the kin, and neither have the names. -/
structure Session.Keeps (names : Set String) (kin : Kin) (s : Session ε ρ) : Prop where
  registers : ∀ name ∈ names, ∀ h, s.registers.get? name = some h → h ∈ kin.cells
  wraps : ∀ name ∈ names, ∀ binding body, s.wraps.get? name = some (binding, body) →
    binding.Of kin ∧ body.Among names
  named : ∀ name ∈ names, ∀ task, s.named.get? name = some task → task ∈ kin.tasks
  tasks : ∀ task ∈ kin.tasks, ∀ progress, s.tasks[task]? = some progress → progress.Of names kin

section

variable {names : Set String} {kin kin' : Kin}

theorem Binding.Of.mono {binding : Binding} (h : binding.Of kin) (hle : kin ≤ kin') : binding.Of kin' :=
  fun own hown => hle.2 (h own hown)

theorem Binding.of_ofHandle? {found : Option Handle} (h : ∀ h, found = some h → h ∈ kin.cells) :
    (Binding.ofHandle? found).Of kin := by
  intro own hown
  cases found with
  | none => cases hown
  | some own' =>
    cases hown
    exact h own rfl

theorem Future.Of.mono {future : Future ε ρ} (h : future.Of names kin) (hle : kin ≤ kin') :
    future.Of names kin' := by
  induction future with
  | ready program => exact h
  | ended value => trivial
  | within binding body next ih => exact ⟨h.1.mono hle, ih h.2.1, h.2.2⟩
  | caught body next ih => exact ⟨ih h.1, h.2⟩
  | joined left right next ihleft ihright => exact ⟨ihleft h.1, ihright h.2.1, h.2.2⟩
  | awaiting task next => exact ⟨hle.1 h.1, h.2⟩

theorem Progress.Of.mono {progress : Progress ε ρ} (h : progress.Of names kin) (hle : kin ≤ kin') :
    progress.Of names kin' := by
  cases progress with
  | running future => exact Future.Of.mono h hle
  | ended exit => trivial

theorem PairPoll.of_ofSides {left right : Future ε ρ} (hleft : left.Of names kin)
    (hright : right.Of names kin) : (PairPoll.ofSides left right).Of names kin := by
  unfold PairPoll.ofSides
  split
  · trivial
  · exact ⟨hleft, hright⟩

theorem CallChain.Of.mono {chain : CallChain} (h : chain.Of kin) (hle : kin ≤ kin') : chain.Of kin' :=
  ⟨fun own hown => hle.2 (h.current own hown), fun own hown => hle.2 (h.lent own hown)⟩

theorem CallChain.Of.enter {chain : CallChain} (h : chain.Of kin) {own : Option Handle}
    (hown : (Binding.held own).Of kin) : (chain.enter own).Of kin :=
  ⟨fun h' heq => hown h' (congrArg Binding.held heq), h.lent⟩

theorem CallChain.Of.lend {chain : CallChain} (h : chain.Of kin) {own : Handle} (hown : own ∈ kin.cells) :
    (chain.lend own).Of kin := by
  refine ⟨h.current, fun h' hmem => ?_⟩
  obtain rfl | hmem := List.mem_cons.mp hmem
  · exact hown
  · exact h.lent h' hmem

end

/-- To have more kin is no matter, as long as their tasks keep to the kin. -/
theorem Session.Keeps.mono {names : Set String} {kin kin' : Kin} {s : Session ε ρ} (h : s.Keeps names kin)
    (hle : kin ≤ kin') (htasks : ∀ task ∈ kin'.tasks, task ∈ kin.tasks) : s.Keeps names kin' where
  registers name hname own hget := hle.2 (h.registers name hname own hget)
  wraps name hname binding body hget :=
    ⟨(h.wraps name hname binding body hget).1.mono hle, (h.wraps name hname binding body hget).2⟩
  named name hname task hget := hle.1 (h.named name hname task hget)
  tasks task htask progress hget := (h.tasks task (htasks task htask) progress hget).mono hle

/-! ### Scenes that are alike -/

/-- A later scene, or another one, that has under some names and of some kin what the first one has. -/
structure Scene.SameOn (names : Set String) (kin : Kin) (x x' : Scene ε ρ) : Prop where
  id : x'.session.id = x.session.id
  made : x.session.made ≤ x'.session.made
  length : x.session.tasks.length ≤ x'.session.tasks.length
  registers : ∀ name ∈ names, x'.session.registers.get? name = x.session.registers.get? name
  wraps : ∀ name ∈ names, x'.session.wraps.get? name = x.session.wraps.get? name
  named : ∀ name ∈ names, x'.session.named.get? name = x.session.named.get? name
  tasks : ∀ task ∈ kin.tasks, x'.session.tasks[task]? = x.session.tasks[task]?
  cells : ∀ h ∈ kin.cells, x'.heap.read h = x.heap.read h

namespace Scene.SameOn

variable {names : Set String} {kin kin' : Kin} {x x' x'' : Scene ε ρ}

theorem refl (names : Set String) (kin : Kin) (x : Scene ε ρ) : x.SameOn names kin x where
  id := rfl
  made := Nat.le_refl _
  length := Nat.le_refl _
  registers _ _ := rfl
  wraps _ _ := rfl
  named _ _ := rfl
  tasks _ _ := rfl
  cells _ _ := rfl

theorem trans (h : x.SameOn names kin x') (h' : x'.SameOn names kin x'') : x.SameOn names kin x'' where
  id := h'.id.trans h.id
  made := h.made.trans h'.made
  length := h.length.trans h'.length
  registers name hname := (h'.registers name hname).trans (h.registers name hname)
  wraps name hname := (h'.wraps name hname).trans (h.wraps name hname)
  named name hname := (h'.named name hname).trans (h.named name hname)
  tasks task htask := (h'.tasks task htask).trans (h.tasks task htask)
  cells own hown := (h'.cells own hown).trans (h.cells own hown)

theorem mono (h : x.SameOn names kin' x') (hle : kin ≤ kin') : x.SameOn names kin x' :=
  { h with
    tasks := fun task htask => h.tasks task (hle.1 htask)
    cells := fun own hown => h.cells own (hle.2 hown) }

theorem keeps (h : x.SameOn names kin x') (hkeeps : x.session.Keeps names kin) :
    x'.session.Keeps names kin where
  registers name hname := by
    rw [h.registers name hname]
    exact hkeeps.registers name hname
  wraps name hname := by
    rw [h.wraps name hname]
    exact hkeeps.wraps name hname
  named name hname := by
    rw [h.named name hname]
    exact hkeeps.named name hname
  tasks task htask := by
    rw [h.tasks task htask]
    exact hkeeps.tasks task htask

end Scene.SameOn

namespace Kin

/-- Two scenes that a program cannot tell apart: they have the same under its names and of its kin, and
nothing there but the kin; they have made as much, and the same turns are left. -/
structure Alike (names : Set String) (kin : Kin) (x y : Scene ε ρ) : Prop where
  same : x.SameOn names kin y
  made : y.session.made = x.session.made
  length : y.session.tasks.length = x.session.tasks.length
  turns : y.session.turns = x.session.turns
  keeps : x.session.Keeps names kin

/-- What became of two scenes: the kin have grown by what was made, the scenes are still alike, the first
has changed in nothing else, and the same events were reported in both. -/
structure Onward (names : Set String) (kin : Kin) (x y x' y' : Scene ε ρ) : Prop where
  alike : Alike names (kin.grown x.session x'.session) x' y'
  spared : x.SameOn namesᶜ (kin.grown x.session x'.session).others x'
  reported : ∃ news, x'.session.events = news ++ x.session.events ∧
    y'.session.events = news ++ y.session.events

/-- A computation that keeps to names and kin: it does the same in alike scenes and what it gives is
`good`, and it changes nothing else. -/
def Within (names : Set String) (kin : Kin) (act : Scoped ε ρ α) (good : Kin → α → Prop) : Prop :=
  ∀ chain x y, chain.Of kin → Alike names kin x y →
    (act chain y).1 = (act chain x).1 ∧
      good (kin.grown x.session (act chain x).2.session) (act chain x).1 ∧
      Onward names kin x y (act chain x).2 (act chain y).2

/-- A poll that keeps to names and kin, as all that is left of it does. -/
abbrev PollWithin (names : Set String) (kin : Kin) {m : Mode} (poll : Scoped ε ρ (Poll ε ρ m)) : Prop :=
  Within names kin poll fun kin result => result.Of names kin

section

variable {names : Set String} {kin : Kin} {x y x' y' x'' y'' : Scene ε ρ}

theorem grown_grown (kin : Kin) {s s' s'' : Session ε ρ} (hid : s'.id = s.id) (hmade : s.made ≤ s'.made)
    (hmade' : s'.made ≤ s''.made) (hlength : s.tasks.length ≤ s'.tasks.length)
    (hlength' : s'.tasks.length ≤ s''.tasks.length) : (kin.grown s s').grown s' s'' = kin.grown s s'' := by
  rw [grown, grown, grown, mk.injEq, Set.union_assoc, Set.union_assoc]
  constructor
  · congr 1
    ext task
    simp only [Set.mem_union, Set.mem_ofPred_eq]
    omega
  · congr 1
    ext h
    simp only [Set.mem_union, Set.mem_ofPred_eq, hid]
    omega

theorem Onward.trans (h : Onward names kin x y x' y')
    (h' : Onward names (kin.grown x.session x'.session) x' y' x'' y'') : Onward names kin x y x'' y'' := by
  have hgrown : (kin.grown x.session x'.session).grown x'.session x''.session =
      kin.grown x.session x''.session :=
    kin.grown_grown h.spared.id h.spared.made h'.spared.made h.spared.length h'.spared.length
  obtain ⟨halike, hspared, news, hx, hy⟩ := h'
  obtain ⟨news', hx', hy'⟩ := h.reported
  have hle := others_le_others (le_grown (kin.grown x.session x'.session) x'.session x''.session)
  rw [hgrown] at halike hspared hle
  refine ⟨halike, (h.spared.mono hle).trans hspared, news ++ news', ?_, ?_⟩
  · rw [hx, hx', List.append_assoc]
  · rw [hy, hy', List.append_assoc]

/-- Where nothing is made, the kin stay as they are. -/
theorem Onward.of_still (news : List ε) (halike : Alike names kin x' y')
    (hspared : x.SameOn namesᶜ kin.others x') (hmade : x'.session.made = x.session.made)
    (hlength : x'.session.tasks.length = x.session.tasks.length)
    (hx : x'.session.events = news ++ x.session.events) (hy : y'.session.events = news ++ y.session.events) :
    Onward names kin x y x' y' := by
  have hgrown : kin.grown x.session x'.session = kin := kin.grown_eq_self hmade hlength
  refine ⟨?_, ?_, news, hx, hy⟩
  · rw [hgrown]
    exact halike
  · rw [hgrown]
    exact hspared

theorem Onward.refl (halike : Alike names kin x y) : Onward names kin x y x y :=
  .of_still [] halike (.refl _ _ _) rfl rfl rfl rfl

end

/-- A change of a session under some names and of some kin, for which nothing is made. -/
structure Quiet (names : Set String) (kin : Kin) (news : List ε) (change : Session ε ρ → Session ε ρ) :
    Prop where
  made : ∀ s, (change s).made = s.made := by intro s; rfl
  length : ∀ s, (change s).tasks.length = s.tasks.length := by intro s; rfl
  turns : ∀ s s', s'.turns = s.turns → (change s').turns = (change s).turns := by intro s s' h; exact h
  events : ∀ s, (change s).events = news ++ s.events := by intro s; rfl
  keeps : ∀ s, s.Keeps names kin → (change s).Keeps names kin
  inside : ∀ x y : Scene ε ρ, Alike names kin x y →
    Scene.SameOn names kin { x with session := change x.session } { y with session := change y.session }
  outside : ∀ x : Scene ε ρ, x.SameOn namesᶜ kin.others { x with session := change x.session }

end Kin

end RequestScope
