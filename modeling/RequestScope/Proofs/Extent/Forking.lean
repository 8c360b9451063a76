import Mathlib.Order.BooleanAlgebra.Set
import RequestScope.Proofs.Extent.Confinement
import RequestScope.Proofs.Extent.Wrapping

/-!
# Extents of forked contexts

A context is forked, and a program runs in the extent of the fork. The program uses names of its own, so
that it comes to contexts through the current one alone. The extent and the tasks that it starts are its
branch. Between two polls of a branch others may do anything at all but touch what the branch has under
its names, its tasks and its cells; programs with other names and other cells cannot do otherwise. No poll
of a branch changes a cell that is not its own, and two histories in which the branch is polled alike leave
the same branch, whatever the others did.
-/

namespace RequestScope

variable {ε ρ : Type}

open Kin

/-! ### Branches -/

/-- An extent with its tasks: what is left of the extent or how it ended, its kin, the events that it and
its tasks have reported, the latest first, and the scene. -/
structure Branch (ε ρ : Type) where
  extent : Progress ε ρ
  kin : Kin
  reported : List ε
  scene : Scene ε ρ

/-- A poll of a branch as a schedule has it: of the extent or of a task, the bound on nesting, how much has
been made and started by then, and the turns that are left. -/
structure Move where
  task : Option Nat
  depth : Nat
  made : Nat
  started : Nat
  turns : List Turn

namespace Branch

/-- The branch after a poll. -/
def onward (branch : Branch ε ρ) (extent : Progress ε ρ) (x : Scene ε ρ) : Branch ε ρ :=
  let news := x.session.events.take (x.session.events.length - branch.scene.session.events.length)
  ⟨extent, branch.kin.grown branch.scene.session x.session, news ++ branch.reported, x⟩

/-- Polls the extent at a place in the code, or a task outside all extents. -/
def poll (branch : Branch ε ρ) (around : List (Option Handle)) (move : Move) : Branch ε ρ :=
  match move.task with
  | none =>
    let (extent, s) := Process.advance move.depth branch.extent (branch.scene.machine { extents := around })
    branch.onward extent s.scene
  | some number =>
    match branch.scene.session.tasks[number]? with
    | none => branch
    | some progress =>
      let (progress, s) := Process.advance move.depth progress (branch.scene.machine {})
      branch.onward branch.extent
        ⟨s.world.heap, { s.session with tasks := s.session.tasks.set number progress }⟩

/-- The same branch when others have made something of the scene. -/
def amid (branch : Branch ε ρ) (x : Scene ε ρ) : Branch ε ρ := { branch with scene := x }

/-- What others make of the scene, by the time of a poll, if they spare the branch. -/
structure Spared (names : Set String) (branch : Branch ε ρ) (move : Move) (x : Scene ε ρ) : Prop where
  same : branch.scene.SameOn names branch.kin x
  made : x.session.made = move.made
  started : x.session.tasks.length = move.started
  turns : x.session.turns = move.turns
  own : ∀ number, move.task = some number → number ∈ branch.kin.tasks

/-- A history: the branch is polled at some places, one poll after the other, and others spare it. -/
inductive Leads (names : Set String) : List Move → Branch ε ρ → Branch ε ρ → Prop
  | nil (branch : Branch ε ρ) : Leads names [] branch branch
  | cons {move : Move} {moves : List Move} {branch after : Branch ε ρ} {x : Scene ε ρ}
    (around : List (Option Handle)) (hspared : Spared names branch move x)
    (hrest : Leads names moves ((branch.amid x).poll around move) after) :
    Leads names (move :: moves) branch after

end Branch

/-! ### One poll -/

/-- What a poll has left. -/
def Poll.progress : Poll ε ρ .async → Progress ε ρ
  | .done exit => .ended exit
  | .pending future => .running future

/-- A run in the extent of a context, or the end of one. -/
def Progress.RunsIn (own : Handle) : Progress ε ρ → Prop
  | .running future => ∃ body, future = .within (.held (some own)) body .ret
  | .ended _ => True

theorem Poll.runsIn_progress_under (own : Handle) (result : Poll ε ρ .async) :
    (result.under own).progress.RunsIn own := by
  cases result with
  | done exit => trivial
  | pending body => exact ⟨body, rfl⟩

namespace Process

theorem advanceIn_running (depth : Nat) (future : Future ε ρ) (chain : CallChain) (x : Scene ε ρ) :
    advanceIn depth (.running future) chain x =
      ((future.pollInAt depth chain x).1.progress, (future.pollInAt depth chain x).2) := by
  rw [advanceIn, Scoped.bind_apply]
  rcases future.pollInAt depth chain x with ⟨result, x'⟩
  cases result with
  | done exit => rfl
  | pending future => rfl

/-- A run is polled as in its own extent alone, wherever it is polled. -/
theorem advance_run (depth : Nat) (own : Handle) (body : Future ε ρ) (around : List (Option Handle))
    (x : Scene ε ρ) :
    let alone := body.pollInAt depth { extents := [some own] } x
    advance depth (.running (.within (.held (some own)) body .ret)) (x.machine { extents := around }) =
      ((alone.1.under own).progress, alone.2.machine { extents := around }) := by
  intro alone
  let chain : CallChain := { extents := around }
  have hcurrent : (chain.enter (some own)).current = CallChain.current { extents := [some own] } := rfl
  have hinner : body.pollInAt depth (chain.enter (some own)) x = alone :=
    body.pollInAt_congr depth hcurrent rfl x
  have hlent : chain.isLent = false := rfl
  have hrun : Future.pollInAt depth (.within (.held (some own)) body .ret) chain x =
      (alone.1.under own, alone.2) := by
    rw [Future.pollInAt_within, hlent, if_neg Bool.false_ne_true, hinner]
  rw [advance_realizes depth _ chain x, advanceIn_running, hrun]

theorem advanceIn_keeps {names : Set String} {kin : Kin} (depth : Nat) {progress : Progress ε ρ}
    (hprogress : progress.Of names kin) :
    Within names kin (advanceIn depth progress) fun kin progress => progress.Of names kin := by
  cases progress with
  | ended exit => exact .of_pure trivial
  | running future =>
    refine (future.pollInAt_keeps depth kin hprogress).bind fun _ _ result hresult => ?_
    cases result with
    | done exit => exact .of_pure trivial
    | pending future => exact .of_pure hresult

/-- So a run that has nothing but its kin keeps to them at every place. -/
theorem exists_advance_run {names : Set String} {kin : Kin} (depth : Nat) {own : Handle} {extent : Progress ε ρ} (hkeeps : extent.Of names kin)
    (hruns : extent.RunsIn own) :
    ∃ act : Scoped ε ρ (Progress ε ρ),
      Within names kin act (fun kin extent => extent.Of names kin ∧ extent.RunsIn own) ∧
      ∀ around x, advance depth extent (x.machine { extents := around }) =
        ((act { extents := [some own] } x).1, (act { extents := [some own] } x).2.machine { extents := around }) := by
  cases extent with
  | ended exit => exact ⟨pure (.ended exit), .of_pure ⟨trivial, trivial⟩, fun _ _ => rfl⟩
  | running future =>
    obtain ⟨body, rfl⟩ := hruns
    obtain ⟨hbinding, hbody, hnext⟩ := hkeeps
    refine ⟨body.pollInAt depth >>= fun result => pure (result.under own).progress, ?_,
      fun around x => advance_run depth own body around x⟩
    refine (body.pollInAt_keeps depth kin hbody).bind fun _ hle result hresult => .of_pure ⟨?_, ?_⟩
    · cases result with
      | done exit => trivial
      | pending body => exact ⟨hbinding.mono hle, hresult, hnext⟩
    · exact result.runsIn_progress_under own

/-- Polls a task outside all extents. -/
def advanceTask (depth number : Nat) (progress : Progress ε ρ) : Scoped ε ρ Unit := do
  let progress ← advanceIn depth progress
  Scoped.inSession fun s => { s with tasks := s.tasks.set number progress }

theorem advanceTask_keeps {names : Set String} {kin : Kin} (depth : Nat) {number : Nat}
    (hnumber : number ∈ kin.tasks) {progress : Progress ε ρ} (hprogress : progress.Of names kin) :
    Within names kin (advanceTask depth number progress) fun _ _ => True := by
  refine (advanceIn_keeps depth hprogress).bind fun kin' hle progress hprogress => ?_
  refine .inSession []
    { length := fun s => List.length_set, keeps := fun s hkeeps => ?_, inside := fun x y halike => ?_,
      outside := fun x => ?_ }
  · refine { hkeeps with tasks := fun task htask progress' hget => ?_ }
    rw [List.getElem?_set] at hget
    split at hget
    · split at hget
      · cases hget
        exact hprogress
      · cases hget
    · exact hkeeps.tasks task htask progress' hget
  · refine { halike.same with length := ?_, tasks := fun task htask => ?_ }
    · rw [List.length_set, List.length_set]
      exact halike.same.length
    · rw [List.getElem?_set, List.getElem?_set, halike.length, halike.same.tasks task htask]
  · refine { Scene.SameOn.refl _ _ x with length := ?_, tasks := fun task htask => ?_ }
    · rw [List.length_set]
    · have hne : number ≠ task := ne_of_mem_of_not_mem (hle.1 hnumber) htask
      rw [List.getElem?_set_ne hne]

end Process

/-! ### Two histories -/

namespace Branch

variable {names : Set String} {own : Handle}

/-- Two branches that are one and the same, but for what the others have. -/
structure Together (names : Set String) (own : Handle) (branch branch' : Branch ε ρ) : Prop where
  extent : branch'.extent = branch.extent
  kin : branch'.kin = branch.kin
  reported : branch'.reported = branch.reported
  alike : Kin.Alike names branch.kin branch.scene branch'.scene
  keeps : branch.extent.Of names branch.kin
  runs : branch.extent.RunsIn own
  own_mem : own ∈ branch.kin.cells

namespace Together

variable {branch branch' : Branch ε ρ}

theorem onward (h : Together names own branch branch') {extent : Progress ε ρ} {x x' : Scene ε ρ}
    (hkeeps : extent.Of names (branch.kin.grown branch.scene.session x.session)) (hruns : extent.RunsIn own)
    (honward : Onward names branch.kin branch.scene branch'.scene x x') :
    Together names own (branch.onward extent x) (branch'.onward extent x') := by
  have hkin : branch'.kin.grown branch'.scene.session x'.session =
      branch.kin.grown branch.scene.session x.session := by
    rw [grown, grown, h.kin, h.alike.same.id, h.alike.made, h.alike.length, honward.alike.made,
      honward.alike.length]
  have hreported : (branch'.onward extent x').reported = (branch.onward extent x).reported := by
    obtain ⟨news, hx, hx'⟩ := honward.reported
    have hnews (old : List ε) : (news ++ old).take ((news ++ old).length - old.length) = news := by
      rw [List.length_append, Nat.add_sub_cancel, List.take_left]
    rw [Branch.onward, Branch.onward, hx, hx', h.reported]
    simp only [hnews]
  exact ⟨rfl, hkin, hreported, honward.alike, hkeeps, hruns, (branch.kin.le_grown _ _).2 h.own_mem⟩

/-- Whatever the places are at which two such branches are polled, they stay so. -/
theorem poll (h : Together names own branch branch') {move : Move}
    (htask : ∀ number, move.task = some number → number ∈ branch.kin.tasks)
    (around around' : List (Option Handle)) :
    Together names own (branch.poll around move) (branch'.poll around' move) ∧
      branch.scene.SameOn namesᶜ (branch.poll around move).kin.others (branch.poll around move).scene := by
  obtain ⟨task, depth, made, started, turns⟩ := move
  cases task with
  | none =>
    obtain ⟨act, hact, hpoll⟩ := Process.exists_advance_run depth h.keeps h.runs
    have hchain : CallChain.Of branch.kin { extents := [some own] } :=
      ⟨fun h' hcurrent => Option.some.inj hcurrent ▸ h.own_mem, fun h' hlent => by cases hlent⟩
    obtain ⟨heq, ⟨hkeeps, hruns⟩, honward⟩ := hact _ _ _ hchain h.alike
    simp only [Branch.poll, h.extent, hpoll, heq]
    exact ⟨h.onward hkeeps hruns honward, honward.spared⟩
  | some number =>
    have hnumber : number ∈ branch.kin.tasks := htask number rfl
    have hget := h.alike.same.tasks number hnumber
    rw [Branch.poll, Branch.poll]
    dsimp only
    rw [hget]
    cases hprogress : branch.scene.session.tasks[number]? with
    | none => exact ⟨h, .refl _ _ _⟩
    | some progress =>
      have houtside : CallChain.Of branch.kin {} :=
        ⟨fun h' hcurrent => (by cases hcurrent), fun h' hlent => (by cases hlent)⟩
      have htaskOf := h.alike.keeps.tasks number hnumber progress hprogress
      obtain ⟨-, -, honward⟩ :=
        Process.advanceTask_keeps depth hnumber htaskOf _ _ _ houtside h.alike
      have hkeeps := h.keeps.mono (branch.kin.le_grown branch.scene.session
        (Process.advanceTask depth number progress {} branch.scene).2.session)
      have hpoll (x : Scene ε ρ) := Process.advance_realizes depth progress {} x
      simp only [hpoll, h.extent]
      exact ⟨h.onward hkeeps h.runs honward, honward.spared⟩

/-- They stay so if both are spared, and if each is polled when the other is. -/
theorem amid (h : Together names own branch branch') {move : Move} {x x' : Scene ε ρ}
    (hspared : Spared names branch move x) (hspared' : Spared names branch' move x') :
    Together names own (branch.amid x) (branch'.amid x') := by
  obtain ⟨hsame, hmade, hstarted, hturns, -⟩ := hspared
  obtain ⟨hsame', hmade', hstarted', hturns', -⟩ := hspared'
  rw [h.kin] at hsame'
  have hmadeEq : x'.session.made = x.session.made := hmade'.trans hmade.symm
  have hlengthEq : x'.session.tasks.length = x.session.tasks.length := hstarted'.trans hstarted.symm
  have hscenes : x.SameOn names branch.kin x' :=
    { id := by rw [hsame'.id, h.alike.same.id, hsame.id]
      made := hmadeEq.ge
      length := hlengthEq.ge
      registers := fun name hname => by
        rw [hsame'.registers name hname, h.alike.same.registers name hname, hsame.registers name hname]
      wraps := fun name hname => by
        rw [hsame'.wraps name hname, h.alike.same.wraps name hname, hsame.wraps name hname]
      named := fun name hname => by
        rw [hsame'.named name hname, h.alike.same.named name hname, hsame.named name hname]
      tasks := fun task htask => by
        rw [hsame'.tasks task htask, h.alike.same.tasks task htask, hsame.tasks task htask]
      cells := fun cell hcell => by
        rw [hsame'.cells cell hcell, h.alike.same.cells cell hcell, hsame.cells cell hcell] }
  exact { h with alike := ⟨hscenes, hmadeEq, hlengthEq, hturns'.trans hturns.symm, hsame.keeps h.alike.keeps⟩ }

/-- Two histories with the same polls. -/
theorem leads (h : Together names own branch branch') {moves : List Move} {after after' : Branch ε ρ}
    (hleads : Leads names moves branch after) (hleads' : Leads names moves branch' after') :
    Together names own after after' := by
  induction moves generalizing branch branch' with
  | nil =>
    cases hleads
    cases hleads'
    exact h
  | cons move moves ih =>
    obtain _ | ⟨around, hspared, hrest⟩ := hleads
    obtain _ | ⟨around', hspared', hrest'⟩ := hleads'
    exact ih ((h.amid hspared hspared').poll hspared.own around around').1 hrest hrest'

end Together

/-! ### What was there before -/

/-- All that the kin have has been made, and nothing of it is a certain cell, which has been made too. -/
structure Apart (cell : Handle) (branch : Branch ε ρ) : Prop where
  cells : ∀ h ∈ branch.kin.cells, h.owner = branch.scene.session.id → h.serial < branch.scene.session.made
  tasks : ∀ task ∈ branch.kin.tasks, task < branch.scene.session.tasks.length
  made : cell.owner = branch.scene.session.id → cell.serial < branch.scene.session.made
  notMem : cell ∉ branch.kin.cells

theorem Apart.amid {cell : Handle} {branch : Branch ε ρ} {x : Scene ε ρ} (h : Apart cell branch)
    (hsame : branch.scene.SameOn names branch.kin x) : Apart cell (branch.amid x) where
  cells own hown howner := (h.cells own hown (howner.trans hsame.id)).trans_le hsame.made
  tasks task htask := (h.tasks task htask).trans_le hsame.length
  made howner := (h.made (howner.trans hsame.id)).trans_le hsame.made
  notMem := h.notMem

theorem kin_poll (branch : Branch ε ρ) (around : List (Option Handle)) (move : Move) :
    (branch.poll around move).kin =
      branch.kin.grown branch.scene.session (branch.poll around move).scene.session := by
  rw [poll]
  split
  · rfl
  · split
    · exact (branch.kin.grown_eq_self rfl rfl).symm
    · rfl

theorem Apart.poll {cell : Handle} {branch : Branch ε ρ} (h : Apart cell branch)
    {around : List (Option Handle)} {move : Move} {others : Set String} {kin : Kin}
    (hsame : branch.scene.SameOn others kin (branch.poll around move).scene) :
    Apart cell (branch.poll around move) where
  cells own hown howner := by
    rw [kin_poll] at hown
    obtain hown | ⟨-, -, hlt⟩ := hown
    · exact (h.cells own hown (howner.trans hsame.id)).trans_le hsame.made
    · exact hlt
  tasks task htask := by
    rw [kin_poll] at htask
    obtain htask | ⟨-, hlt⟩ := htask
    · exact (h.tasks task htask).trans_le hsame.length
    · exact hlt
  made howner := (h.made (howner.trans hsame.id)).trans_le hsame.made
  notMem hmem := by
    rw [kin_poll] at hmem
    obtain hmem | ⟨howner, hle, -⟩ := hmem
    · exact h.notMem hmem
    · exact Nat.not_lt.mpr hle (h.made howner)

theorem Apart.leads {cell : Handle} {branch after : Branch ε ρ} {moves : List Move} (h : Apart cell branch)
    (hsound : Together names own branch branch) (hleads : Leads names moves branch after) :
    Apart cell after := by
  induction hleads with
  | nil branch => exact h
  | cons around hspared hrest ih =>
    obtain ⟨hsound', hkept⟩ := (hsound.amid hspared hspared).poll hspared.own around around
    exact ih ((h.amid hspared.same).poll hkept) hsound'

end Branch

/-! ### The others -/

/-- The others' polls spare the kin, if they use other names and have nothing of the kin, and they come to
nothing of it. -/
theorem Kin.others_spare {names : Set String} {kin : Kin} {x : Scene ε ρ} {chain : CallChain}
    {future : Future ε ρ}
    (hcells : ∀ h ∈ kin.cells, h.owner = x.session.id → h.serial < x.session.made)
    (htasks : ∀ task ∈ kin.tasks, task < x.session.tasks.length)
    (hkeeps : x.session.Keeps namesᶜ kin.others) (hchain : chain.Of kin.others)
    (hfuture : future.Of namesᶜ kin.others) (depth : Nat) :
    let x' := (future.pollInAt depth chain x).2
    x.SameOn names kin x' ∧ x'.session.Keeps namesᶜ kin.others := by
  intro x'
  have halike : Kin.Alike namesᶜ kin.others x x := ⟨.refl _ _ x, rfl, rfl, rfl, hkeeps⟩
  obtain ⟨-, -, honward⟩ := future.pollInAt_keeps depth kin.others hfuture chain x x hchain halike
  have hgrown : kin.others.grown x.session x'.session = kin.others := by
    refine Kin.ext (Set.union_eq_left.mpr fun task htask hmem => ?_) (Set.union_eq_left.mpr fun h hh hmem => ?_)
    · exact Nat.not_lt.mpr htask.1 (htasks task hmem)
    · exact Nat.not_lt.mpr hh.2.1 (hcells h hmem hh.1)
  have hspared := honward.spared
  have hkept := honward.alike.keeps
  rw [hgrown] at hspared hkept
  have hothers : kin.others.others = kin := Kin.ext (compl_compl _) (compl_compl _)
  rw [hothers, compl_compl] at hspared
  exact ⟨hspared, hkept⟩

/-! ### Forked contexts -/

/-- The machine when a context has been forked into a register. -/
def Machine.fork (s : Machine ε ρ) (c : Handle) (register : String) : Machine ε ρ :=
  (s.modify c id).create register (s.world.heap.read c)

/-- A program that is to run in the extent of a context, with no kin but the context. -/
def Branch.begin (own : Handle) (body : Program ε ρ .async) (x : Scene ε ρ) : Branch ε ρ :=
  ⟨.running (.run own body), ⟨∅, {own}⟩, [], x⟩

theorem Machine.read_fork (s : Machine ε ρ) (c : Handle) (register : String) (h : Handle) :
    (s.fork c register).world.heap.read h =
      if h = ⟨s.session.id, s.session.made⟩ then s.world.heap.read c else s.world.heap.read h := by
  have hfork : (s.fork c register).world.heap =
      (s.world.heap.write c (s.world.heap.read c)).write ⟨s.session.id, s.session.made⟩ (s.world.heap.read c) := rfl
  rw [hfork, Heap.read_write, Heap.read_write]
  by_cases hown : h = ⟨s.session.id, s.session.made⟩
  · rw [if_pos hown, if_pos hown.symm]
  · rw [if_neg hown, if_neg (Ne.symm hown)]
    split
    · rename_i heq
      rw [heq]
    · rfl

theorem Program.poll_fork (again : Future ε ρ → Machine ε ρ → Poll ε ρ .async × Machine ε ρ) {m : Mode}
    {target : Target} {s : Machine ε ρ} {c : Handle} (hfound : s.find? target = some c) (register : String)
    (next : Bool → Program ε ρ m) :
    (Program.fork target register next).poll again s = (next true).poll again (s.fork c register) := by
  rw [Program.fork, Program.poll, hfound]
  rfl

namespace Branch

variable {names : Set String} {body : Program ε ρ .async} {register : String} {s : Machine ε ρ} {c : Handle}

theorem begin_sound (hbody : body.Among names)
    (hnew : ∀ name ∈ names, s.session.registers.get? name = none ∧ s.session.wraps.get? name = none ∧
      s.session.named.get? name = none) :
    let start := Branch.begin ⟨s.session.id, s.session.made⟩ body (s.fork c register).scene
    Together names ⟨s.session.id, s.session.made⟩ start start := by
  intro start
  have hkeeps : start.scene.session.Keeps names start.kin := by
    refine ⟨fun name hname h hget => ?_, fun name hname binding body' hget => ?_, fun name hname task hget => ?_,
      fun task htask => htask.elim⟩
    · have hinsert : (s.session.registers.insert register ⟨s.session.id, s.session.made⟩).get? name = some h := hget
      rw [SortedMap.get?_insert] at hinsert
      split at hinsert
      · cases hinsert
        rfl
      · rw [(hnew name hname).1] at hinsert
        cases hinsert
    · have hnone : start.scene.session.wraps.get? name = none := (hnew name hname).2.1
      rw [hnone] at hget
      cases hget
    · have hnone : start.scene.session.named.get? name = none := (hnew name hname).2.2
      rw [hnone] at hget
      cases hget
  have hrun : (Future.run ⟨s.session.id, s.session.made⟩ body).Of names start.kin := by
    refine ⟨fun h heq => ?_, hbody, fun _ => trivial⟩
    cases heq
    rfl
  exact ⟨rfl, rfl, rfl, ⟨.refl _ _ _, rfl, rfl, rfl, hkeeps⟩, hrun, ⟨_, rfl⟩, rfl⟩

theorem begin_apart (hmade : c.owner = s.session.id → c.serial < s.session.made) :
    Apart c (Branch.begin ⟨s.session.id, s.session.made⟩ body (s.fork c register).scene) where
  cells h hown _ := by
    cases hown
    exact Nat.lt_succ_self _
  tasks _ htask := htask.elim
  made howner := (hmade howner).trans (Nat.lt_succ_self _)
  notMem hmem := by
    cases hmem
    exact Nat.lt_irrefl _ (hmade rfl)

/-- A program that runs in the extent of a fork finds the entries that the context had when it was forked,
whatever has become of the context by then. Polls of the program and of its tasks do not change the context,
and they do not depend on what others make of it: two histories in which they are polled alike leave the
same. Around each poll the same context is current before and after. And others that use other names and
hold nothing that the program has made do spare it. -/
theorem fork_apart (hbody : body.Among names)
    (hnew : ∀ name ∈ names, s.session.registers.get? name = none ∧ s.session.wraps.get? name = none ∧
      s.session.named.get? name = none)
    {target : Target} (hfound : s.find? target = some c)
    (hmade : c.owner = s.session.id → c.serial < s.session.made) :
    let own : Handle := ⟨s.session.id, s.session.made⟩
    let forked := s.fork c register
    let start := Branch.begin own body forked.scene
    (own ≠ c ∧
      (∀ h, forked.world.heap.read h = if h = own then s.world.heap.read c else s.world.heap.read h) ∧
      ∀ again {m : Mode} (next : Bool → Program ε ρ m),
        (Program.fork target register next).poll again s = (next true).poll again forked) ∧
    (∀ x, start.scene.SameOn names start.kin x → ∀ (around : List (Option Handle)) (depth : Nat),
      let inside := x.machine { extents := [some own] }
      let alone := (Future.ready body).pollAt depth inside
      inside.find? .current = some own ∧ inside.world.heap.read own = s.world.heap.read c ∧
      (Future.run own body).pollAt depth (x.machine { extents := around }) =
        (alone.1.under own, alone.2.scene.machine { extents := around })) ∧
    ∀ moves after, Leads names moves start after →
      (∀ after', Leads names moves start after' →
        after'.extent = after.extent ∧ after'.reported = after.reported ∧ after'.kin = after.kin ∧
        Kin.Alike names after.kin after.scene after'.scene) ∧
      (∀ move x around, Spared names after move x →
        ((after.amid x).poll around move).scene.heap.read c = x.heap.read c ∧
        (Process.advance move.depth after.extent (x.machine { extents := around })).2.find? .current =
          (x.machine { extents := around }).find? .current) ∧
      ∀ x, after.scene.SameOn names after.kin x → x.session.Keeps namesᶜ after.kin.others →
        ∀ (depth : Nat) (chain : CallChain) (future : Future ε ρ), chain.Of after.kin.others →
          future.Of namesᶜ after.kin.others →
          let x' := (future.pollAt depth (x.machine chain)).2.scene
          x.SameOn names after.kin x' ∧ x'.session.Keeps namesᶜ after.kin.others := by
  intro own forked start
  have hstart : Together names own start start := begin_sound hbody hnew
  have happart : Apart c start := begin_apart hmade
  refine ⟨⟨fun heq => happart.notMem (heq ▸ hstart.own_mem), s.read_fork c register,
      fun again _ next => Program.poll_fork again hfound register next⟩,
    fun x hsame around depth => ⟨rfl, ?_, ?_⟩, fun moves after hleads => ⟨fun after' hleads' => ?_,
      fun move x around hspared => ⟨?_, ?_⟩, fun x hsame hkeeps depth chain future hchain hfuture => ?_⟩⟩
  · have hread := s.read_fork c register own
    rw [if_pos rfl] at hread
    exact (hsame.cells own rfl).trans hread
  · exact Future.pollAt_held own (.ready body) ⟨around, depth, fun _ => x⟩ x
  · have htogether := hstart.leads hleads hleads'
    exact ⟨htogether.extent, htogether.reported, htogether.kin, htogether.alike⟩
  · have hsound := hstart.leads hleads hleads
    obtain ⟨-, hkept⟩ := (hsound.amid hspared hspared).poll hspared.own around around
    have hcell := (((happart.leads hstart hleads).amid hspared.same).poll hkept).notMem
    exact hkept.cells c hcell
  · rw [Process.advance_realizes move.depth after.extent { extents := around } x]
    rfl
  · have hafter := (happart.leads hstart hleads).amid hsame
    rw [future.pollAt_realizes depth chain x]
    exact Kin.others_spare hafter.cells hafter.tasks hkeeps hchain hfuture depth

/-- A context is forked and then emptied by others. The program inserts what the emptied context does not
get, and finds what it held before. -/
theorem fork_apart_emptied :
    let c : Handle := ⟨0, 0⟩
    let own : Handle := ⟨0, 1⟩
    let held : Entries := .ofList [("a", .null)]
    let names : Set String := {"fork"}
    let body : Program Entries Unit .async :=
      .insert .current "b" .null fun _ => .inspect .current fun found => .emit (found.getD .empty) (.ret ())
    let s : Machine Entries Unit :=
      ⟨{ heap := .ofList [(c, held)] }, { id := 0, made := 1, registers := .ofList [("c", c)] }⟩
    let start := Branch.begin own body (s.fork c "fork").scene
    let x : Scene Entries Unit := { start.scene with heap := start.scene.heap.write c .empty }
    let after := (start.amid x).poll [some c] ⟨none, 1, 2, 0, []⟩
    (body.Among names ∧ s.find? (.register "c") = some c ∧ start.scene.SameOn names start.kin x) ∧
      (x.machine { extents := [some own] }).world.heap.read own = held ∧
      after.scene.heap.read c = .empty ∧ after.reported.map (·.keys) = [["a", "b"]] := by
  intro c own held names body s start x after
  have hbody : body.Among names := ⟨trivial, fun _ => ⟨trivial, fun _ => trivial⟩⟩
  have hsame : start.scene.SameOn names start.kin x := by
    refine { Scene.SameOn.refl _ _ start.scene with cells := fun h hown => ?_ }
    cases hown
    rfl
  have hnew : ∀ name ∈ names, s.session.registers.get? name = none ∧ s.session.wraps.get? name = none ∧
      s.session.named.get? name = none := by
    intro name hname
    cases hname
    exact ⟨rfl, rfl, rfl⟩
  have hfound : s.find? (.register "c") = some c := rfl
  have hmade : c.owner = s.session.id → c.serial < s.session.made := fun _ => Nat.zero_lt_one
  obtain ⟨-, hbegin, hleads⟩ := @fork_apart _ _ names body "fork" s c hbody hnew _ hfound hmade
  obtain ⟨-, hpolls, -⟩ := hleads [] start (.nil start)
  have hspared : Spared names start ⟨none, 1, 2, 0, []⟩ x :=
    ⟨hsame, rfl, rfl, rfl, fun number hnumber => by cases hnumber⟩
  refine ⟨⟨hbody, hfound, hsame⟩, (hbegin x hsame [] 0).2.1, ?_, rfl⟩
  exact (hpolls _ x [some c] hspared).1

end Branch

end RequestScope
