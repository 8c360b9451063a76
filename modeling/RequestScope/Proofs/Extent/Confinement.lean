import RequestScope.Proofs.Extent.Kin

/-!
# Polls keep to names and kin

Each operation keeps to the names and the kin of the program that does it, computations that are put one
behind the other do if each does with the kin that it finds, and so every poll does.
-/

namespace RequestScope

variable {ε ρ α β : Type}

namespace Kin

namespace Within

open Scoped

variable {names : Set String} {kin : Kin} {act : Scoped ε ρ α} {good : Kin → α → Prop}

theorem of_pure {a : α} (ha : good kin a) : Within names kin (pure a : Scoped ε ρ α) good := by
  intro chain x y _ halike
  have hgrown : kin.grown x.session x.session = kin := kin.grown_eq_self rfl rfl
  exact ⟨rfl, hgrown.symm ▸ ha, .refl halike⟩

theorem bind {next : α → Scoped ε ρ β} {good' : Kin → β → Prop} (hact : Within names kin act good)
    (hnext : ∀ kin', kin ≤ kin' → ∀ a, good kin' a → Within names kin' (next a) good') :
    Within names kin (act >>= next) good' := by
  intro chain x y hchain halike
  obtain ⟨heq, hgood, honward⟩ := hact chain x y hchain halike
  have hle := kin.le_grown x.session (act chain x).2.session
  obtain ⟨heq', hgood', honward'⟩ :=
    hnext _ hle _ hgood chain _ _ (hchain.mono hle) honward.alike
  have hgrown := kin.grown_grown honward.spared.id honward.spared.made honward'.spared.made
    honward.spared.length honward'.spared.length
  rw [bind_apply, bind_apply, heq]
  exact ⟨heq', hgrown ▸ hgood', honward.trans honward'⟩

/-- What is chosen by what is alike in both scenes. -/
theorem of_choice (h : ∀ chain x y, chain.Of kin → Alike names kin x y → ∃ act' : Scoped ε ρ α,
    act chain x = act' chain x ∧ act chain y = act' chain y ∧ Within names kin act' good) :
    Within names kin act good := by
  intro chain x y hchain halike
  obtain ⟨act', hx, hy, hact'⟩ := h chain x y hchain halike
  rw [hx, hy]
  exact hact' chain x y hchain halike

theorem elsewhere {f : CallChain → CallChain} (hact : Within names kin act good)
    (hf : ∀ chain, chain.Of kin → (f chain).Of kin) : Within names kin (withReader f act) good :=
  fun chain x y hchain halike => hact (f chain) x y (hf chain hchain) halike

theorem read : Within (ε := ε) (ρ := ρ) names kin read fun kin chain => chain.Of kin := by
  intro chain x y hchain halike
  have hgrown : kin.grown x.session x.session = kin := kin.grown_eq_self rfl rfl
  exact ⟨rfl, hgrown.symm ▸ hchain, .refl halike⟩

theorem inSession {change : Session ε ρ → Session ε ρ} (news : List ε)
    (hquiet : Quiet names kin news change) : Within names kin (inSession change) fun _ _ => True := by
  intro chain x y _ halike
  refine ⟨rfl, trivial, .of_still news ⟨hquiet.inside x y halike, ?_, ?_, ?_, hquiet.keeps _ halike.keeps⟩
    (hquiet.outside x) (hquiet.made _) (hquiet.length _) (hquiet.events _) (hquiet.events _)⟩
  · change (change y.session).made = (change x.session).made
    rw [hquiet.made, hquiet.made, halike.made]
  · change (change y.session).tasks.length = (change x.session).tasks.length
    rw [hquiet.length, hquiet.length, halike.length]
  · exact hquiet.turns _ _ halike.turns

/-! ### What programs do -/

theorem find? {target : Target} (htarget : target.Among names) :
    Within (ε := ε) (ρ := ρ) names kin (find? target) fun kin found => ∀ h, found = some h → h ∈ kin.cells := by
  cases target with
  | current => exact read.bind fun kin' _ chain hchain => of_pure hchain.current
  | lent =>
    exact read.bind fun kin' _ chain hchain => of_pure fun h hfound => hchain.lent h (List.mem_of_head? hfound)
  | register name =>
    refine of_choice fun chain x y _ halike => ⟨pure (x.session.registers.get? name), rfl, ?_, ?_⟩
    · rw [← halike.same.registers name htarget]
      rfl
    · exact of_pure (halike.keeps.registers name htarget)

theorem binding {target : Target} (htarget : target.Among names) :
    Within (ε := ε) (ρ := ρ) names kin (binding target) fun kin binding => binding.Of kin :=
  (find? htarget).bind fun _ _ _ hfound => of_pure (Binding.of_ofHandle? hfound)

theorem update {h : Handle} (hown : h ∈ kin.cells) (change : Entries → Entries) :
    Within (ε := ε) (ρ := ρ) names kin (update h change) fun _ _ => True := by
  intro chain x y _ halike
  have hread : y.heap.read h = x.heap.read h := halike.same.cells h hown
  refine ⟨hread, trivial, .of_still [] ⟨?_, halike.made, halike.length, halike.turns, ?_⟩ ?_
    rfl rfl rfl rfl⟩
  · refine { halike.same with cells := fun h' hown' => ?_ }
    change (y.heap.write h _).read h' = (x.heap.write h _).read h'
    rw [Heap.read_write, Heap.read_write, hread, halike.same.cells h' hown']
  · exact { halike.keeps with }
  · refine { Scene.SameOn.refl _ _ x with cells := fun h' hother => ?_ }
    have hne : h ≠ h' := fun heq => hother (heq ▸ hown)
    change (x.heap.write h _).read h' = x.heap.read h'
    rw [Heap.read_write, if_neg hne]

theorem assign {register : String} (hregister : register ∈ names) {h : Handle} (hown : h ∈ kin.cells) :
    Within (ε := ε) (ρ := ρ) names kin (assign register h) fun _ _ => True := by
  refine inSession [] { keeps := fun s hkeeps => ?_, inside := fun x y halike => ?_, outside := fun x => ?_ }
  · refine { hkeeps with registers := fun name hname h' hget => ?_ }
    rw [SortedMap.get?_insert] at hget
    split at hget
    · cases hget
      exact hown
    · exact hkeeps.registers name hname h' hget
  · refine { halike.same with registers := fun name hname => ?_ }
    rw [SortedMap.get?_insert, SortedMap.get?_insert, halike.same.registers name hname]
  · refine { Scene.SameOn.refl _ _ x with registers := fun name hname => ?_ }
    rw [SortedMap.get?_insert, if_neg (ne_of_mem_of_not_mem hregister hname)]

theorem make {register : String} (hregister : register ∈ names) (entries : Entries) :
    Within (ε := ε) (ρ := ρ) names kin (make register entries) fun _ _ => True := by
  intro chain x y _ halike
  let made : Handle := ⟨x.session.id, x.session.made⟩
  have hmade : (⟨y.session.id, y.session.made⟩ : Handle) = made := by rw [halike.same.id, halike.made]
  have hgrown : kin.grown x.session (Scoped.make register entries chain x).2.session =
      ⟨kin.tasks, kin.cells ∪ {made}⟩ := kin.grown_of_made rfl rfl
  have hle : kin ≤ ⟨kin.tasks, kin.cells ∪ {made}⟩ := ⟨subset_rfl, Set.subset_union_left⟩
  have hsame : (Scoped.make register entries chain x).2.SameOn names ⟨kin.tasks, kin.cells ∪ {made}⟩
      (Scoped.make register entries chain y).2 := by
    refine ⟨halike.same.id, Nat.succ_le_succ halike.same.made, halike.same.length, fun name hname => ?_,
      halike.same.wraps, halike.same.named, halike.same.tasks, fun h hown => ?_⟩
    · change (y.session.registers.insert register _).get? name = (x.session.registers.insert register _).get? name
      rw [SortedMap.get?_insert, SortedMap.get?_insert, hmade, halike.same.registers name hname]
    · change (y.heap.write _ entries).read h = (x.heap.write made entries).read h
      rw [Heap.read_write, Heap.read_write, hmade]
      split
      · rfl
      · rename_i hne
        exact halike.same.cells h (hown.resolve_right fun heq => hne heq.symm)
  have hkeeps : (Scoped.make register entries chain x).2.session.Keeps names
      ⟨kin.tasks, kin.cells ∪ {made}⟩ := by
    refine { halike.keeps.mono hle fun _ htask => htask with registers := fun name hname h hget => ?_ }
    have hinsert : (x.session.registers.insert register made).get? name = some h := hget
    rw [SortedMap.get?_insert] at hinsert
    split at hinsert
    · cases hinsert
      exact .inr rfl
    · exact .inl (halike.keeps.registers name hname h hinsert)
  have hspared : x.SameOn namesᶜ (Kin.mk kin.tasks (kin.cells ∪ {made})).others
      (Scoped.make register entries chain x).2 := by
    refine ⟨rfl, Nat.le_succ _, Nat.le_refl _, fun name hname => ?_, fun _ _ => rfl, fun _ _ => rfl,
      fun _ _ => rfl, fun h hother => ?_⟩
    · change (x.session.registers.insert register made).get? name = x.session.registers.get? name
      rw [SortedMap.get?_insert, if_neg (ne_of_mem_of_not_mem hregister hname)]
    · change (x.heap.write made entries).read h = x.heap.read h
      rw [Heap.read_write, if_neg fun heq => hother (.inr heq.symm)]
  refine ⟨rfl, trivial, ?_, ?_, [], rfl, rfl⟩
  · rw [hgrown]
    exact ⟨hsame, congrArg (· + 1) halike.made, halike.length, halike.turns, hkeeps⟩
  · rw [hgrown]
    exact hspared

theorem report (event : ε) : Within (ρ := ρ) names kin (report event) fun _ _ => True :=
  inSession [event]
    { keeps := fun _ hkeeps => { hkeeps with }, inside := fun _ _ halike => { halike.same with },
      outside := fun x => { Scene.SameOn.refl _ _ x with } }

theorem keep {name : String} (hname : name ∈ names) {binding : Binding} (hbinding : binding.Of kin)
    {body : Program ε ρ .async} (hbody : body.Among names) :
    Within names kin (keep name binding body) fun _ _ => True := by
  refine inSession [] { keeps := fun s hkeeps => ?_, inside := fun x y halike => ?_, outside := fun x => ?_ }
  · refine { hkeeps with wraps := fun name' hname' binding' body' hget => ?_ }
    rw [SortedMap.get?_insert] at hget
    split at hget
    · cases hget
      exact ⟨hbinding, hbody⟩
    · exact hkeeps.wraps name' hname' binding' body' hget
  · refine { halike.same with wraps := fun name' hname' => ?_ }
    rw [SortedMap.get?_insert, SortedMap.get?_insert, halike.same.wraps name' hname']
  · refine { Scene.SameOn.refl _ _ x with wraps := fun name' hname' => ?_ }
    rw [SortedMap.get?_insert, if_neg (ne_of_mem_of_not_mem hname hname')]

theorem takeWrapped? {name : String} (hname : name ∈ names) :
    Within (ε := ε) (ρ := ρ) names kin (takeWrapped? name) fun kin found =>
      ∀ binding body, found = some (binding, body) → binding.Of kin ∧ body.Among names := by
  have hunwrap : Within (ε := ε) (ρ := ρ) names kin
      (Scoped.inSession fun s => { s with wraps := s.wraps.erase name }) fun _ _ => True := by
    refine inSession []
      { keeps := fun s hkeeps => ?_, inside := fun x y halike => ?_, outside := fun x => ?_ }
    · refine { hkeeps with wraps := fun name' hname' binding body hget => ?_ }
      rw [SortedMap.get?_erase] at hget
      split at hget
      · cases hget
      · exact hkeeps.wraps name' hname' binding body hget
    · refine { halike.same with wraps := fun name' hname' => ?_ }
      rw [SortedMap.get?_erase, SortedMap.get?_erase, halike.same.wraps name' hname']
    · refine { Scene.SameOn.refl _ _ x with wraps := fun name' hname' => ?_ }
      rw [SortedMap.get?_erase, if_neg (ne_of_mem_of_not_mem hname hname')]
  refine of_choice fun chain x y _ halike => ?_
  have hsame := halike.same.wraps name hname
  simp only [Scoped.takeWrapped?, bind_apply, session_apply, hsame]
  cases hget : x.session.wraps.get? name with
  | none => exact ⟨pure none, rfl, rfl, of_pure fun _ _ hnone => by cases hnone⟩
  | some wrapped =>
    refine ⟨_, rfl, rfl, hunwrap.bind fun kin' hle _ _ => of_pure fun binding body heq => ?_⟩
    cases heq
    obtain ⟨hbinding, hbody⟩ := halike.keeps.wraps name hname _ _ hget
    exact ⟨hbinding.mono hle, hbody⟩

theorem start {name : String} (hname : name ∈ names) {binding : Binding} (hbinding : binding.Of kin)
    {body : Program ε ρ .async} (hbody : body.Among names) :
    Within names kin (start name binding body) fun _ _ => True := by
  intro chain x y _ halike
  let grown : Kin := ⟨kin.tasks ∪ {x.session.tasks.length}, kin.cells⟩
  let after (x : Scene ε ρ) : Scene ε ρ := (Scoped.start name binding body chain x).2
  have hgrown : kin.grown x.session (after x).session = grown := by
    refine kin.grown_of_started rfl ?_
    exact List.length_append
  have hle : kin ≤ grown := ⟨Set.subset_union_left, subset_rfl⟩
  have hlength : (after y).session.tasks.length = (after x).session.tasks.length := by
    change (y.session.tasks ++ [_]).length = (x.session.tasks ++ [_]).length
    rw [List.length_append, List.length_append, halike.length]
  -- The new task has the same number in both scenes, and it is the same future.
  have hnew (x : Scene ε ρ) : (after x).session.tasks[x.session.tasks.length]? =
      some (.running (Machine.task binding body)) := List.getElem?_concat_length
  have hold (x : Scene ε ρ) {task : Nat} (hne : task ≠ x.session.tasks.length) :
      (after x).session.tasks[task]? = x.session.tasks[task]? := by
    change (x.session.tasks ++ [_])[task]? = _
    rw [List.getElem?_append]
    split
    · rfl
    · rename_i hlt
      have hbeyond : x.session.tasks[task]? = none := List.getElem?_eq_none (by omega)
      rw [hbeyond, List.getElem?_eq_none]
      simp only [List.length_cons, List.length_nil]
      omega
  have hsame : (after x).SameOn names grown (after y) := by
    refine ⟨halike.same.id, halike.same.made, hlength.ge, halike.same.registers, halike.same.wraps,
      fun name' hname' => ?_, fun task htask => ?_, halike.same.cells⟩
    · change (y.session.named.insert name _).get? name' = (x.session.named.insert name _).get? name'
      rw [SortedMap.get?_insert, SortedMap.get?_insert, halike.length, halike.same.named name' hname']
    · by_cases heq : task = x.session.tasks.length
      · rw [heq, hnew, ← halike.length, hnew]
      · rw [hold x heq, hold y (halike.length ▸ heq)]
        exact halike.same.tasks task (htask.resolve_right heq)
  have hkeeps : (after x).session.Keeps names grown := by
    refine ⟨halike.keeps.registers, halike.keeps.wraps, fun name' hname' task hget => ?_,
      fun task htask progress hget => ?_⟩
    · have hinsert : (x.session.named.insert name x.session.tasks.length).get? name' = some task := hget
      rw [SortedMap.get?_insert] at hinsert
      split at hinsert
      · cases hinsert
        exact .inr rfl
      · exact .inl (halike.keeps.named name' hname' task hinsert)
    · by_cases heq : task = x.session.tasks.length
      · rw [heq, hnew] at hget
        cases hget
        exact ⟨hbinding, hbody, fun _ => trivial⟩
      · rw [hold x heq] at hget
        exact (halike.keeps.tasks task (htask.resolve_right heq) progress hget).mono hle
  have hspared : x.SameOn namesᶜ grown.others (after x) := by
    refine ⟨rfl, Nat.le_refl _, ?_, fun _ _ => rfl, fun _ _ => rfl, fun name' hname' => ?_,
      fun task htask => hold x fun heq => htask (.inr heq), fun _ _ => rfl⟩
    · change x.session.tasks.length ≤ (x.session.tasks ++ [_]).length
      rw [List.length_append]
      exact Nat.le_add_right _ _
    · change (x.session.named.insert name _).get? name' = x.session.named.get? name'
      rw [SortedMap.get?_insert, if_neg (ne_of_mem_of_not_mem hname hname')]
  refine ⟨rfl, trivial, ?_, ?_, [], rfl, rfl⟩
  · rw [hgrown]
    exact ⟨hsame, halike.made, hlength, halike.turns, hkeeps⟩
  · rw [hgrown]
    exact hspared

theorem takeTask? {name : String} (hname : name ∈ names) :
    Within (ε := ε) (ρ := ρ) names kin (takeTask? name) fun kin found =>
      ∀ task, found = some task → task ∈ kin.tasks := by
  have hforget : Within (ε := ε) (ρ := ρ) names kin
      (Scoped.inSession fun s => { s with named := s.named.erase name }) fun _ _ => True := by
    refine inSession []
      { keeps := fun s hkeeps => ?_, inside := fun x y halike => ?_, outside := fun x => ?_ }
    · refine { hkeeps with named := fun name' hname' task hget => ?_ }
      rw [SortedMap.get?_erase] at hget
      split at hget
      · cases hget
      · exact hkeeps.named name' hname' task hget
    · refine { halike.same with named := fun name' hname' => ?_ }
      rw [SortedMap.get?_erase, SortedMap.get?_erase, halike.same.named name' hname']
    · refine { Scene.SameOn.refl _ _ x with named := fun name' hname' => ?_ }
      rw [SortedMap.get?_erase, if_neg (ne_of_mem_of_not_mem hname hname')]
  refine of_choice fun chain x y _ halike => ?_
  have hsame := halike.same.named name hname
  simp only [Scoped.takeTask?, bind_apply, session_apply, hsame]
  cases hget : x.session.named.get? name with
  | none => exact ⟨pure none, rfl, rfl, of_pure fun _ hnone => by cases hnone⟩
  | some task =>
    refine ⟨_, rfl, rfl, hforget.bind fun kin' hle _ _ => of_pure fun task' heq => ?_⟩
    cases heq
    exact hle.1 (halike.keeps.named name hname task hget)

theorem taskExit? {task : Nat} (htask : task ∈ kin.tasks) :
    Within (ε := ε) (ρ := ρ) names kin (taskExit? task) fun _ _ => True := by
  refine of_choice fun chain x y _ halike => ?_
  have hsame := halike.same.tasks task htask
  simp only [Scoped.taskExit?, bind_apply, session_apply, hsame]
  rcases x.session.tasks[task]? with _ | _ | exit
  · exact ⟨pure none, rfl, rfl, of_pure trivial⟩
  · exact ⟨pure none, rfl, rfl, of_pure trivial⟩
  · exact ⟨pure (some exit), rfl, rfl, of_pure trivial⟩

theorem takeTurn : Within (ε := ε) (ρ := ρ) names kin takeTurn fun _ _ => True := by
  refine of_choice fun chain x y _ halike => ?_
  simp only [Scoped.takeTurn, bind_apply, session_apply, halike.turns]
  cases x.session.turns with
  | nil => exact ⟨pure .leftFirst, rfl, rfl, of_pure trivial⟩
  | cons turn turns =>
    have hadvance : Within (ε := ε) (ρ := ρ) names kin (Scoped.inSession fun s => { s with turns })
        fun _ _ => True :=
      inSession []
        { turns := fun _ _ _ => rfl, keeps := fun _ hkeeps => { hkeeps with },
          inside := fun _ _ halike => { halike.same with }, outside := fun x => { Scene.SameOn.refl _ _ x with } }
    exact ⟨_, rfl, rfl, hadvance.bind fun _ _ _ _ => of_pure trivial⟩

theorem inside {m : Mode} {binding : Binding} (hbinding : binding.Of kin)
    {body : Scoped ε ρ (Poll ε ρ m)} (hbody : PollWithin names kin body) :
    PollWithin names kin (inside binding body) := by
  cases binding with
  | free => exact hbody
  | held own =>
    refine of_choice fun chain x y _ _ => ?_
    rw [inside_held, inside_held]
    split
    · exact ⟨pure (.done (.panicked lentPanic)), rfl, rfl, of_pure trivial⟩
    · exact ⟨withReader (·.enter own) body, rfl, rfl, hbody.elsewhere fun chain hchain => hchain.enter hbinding⟩

theorem side {poll : Scoped ε ρ (Poll ε ρ .async)} (hpoll : PollWithin names kin poll) :
    Within names kin (side poll) fun kin side => ∀ future, side = .ok future → future.Of names kin := by
  refine hpoll.bind fun kin' _ result hresult => of_pure fun future hside => ?_
  cases result with
  | done exit =>
    cases exit with
    | returned value =>
      cases hside
      trivial
    | panicked text => cases hside
  | pending future =>
    cases hside
    exact hresult

theorem sides {first second : Scoped ε ρ (Poll ε ρ .async)} (hfirst : PollWithin names kin first)
    (hsecond : ∀ kin', kin ≤ kin' → PollWithin names kin' second) :
    Within names kin (sides first second) fun kin sides =>
      ∀ a b, sides = .ok (a, b) → a.Of names kin ∧ b.Of names kin := by
  refine hfirst.side.bind fun kin' hle side hside => ?_
  cases side with
  | error text => exact of_pure fun _ _ herror => by cases herror
  | ok a =>
    refine (hsecond kin' hle).side.bind fun kin'' hle' side' hside' => ?_
    cases side' with
    | error text => exact of_pure fun _ _ herror => by cases herror
    | ok b =>
      refine of_pure fun _ _ hsides => ?_
      cases hsides
      exact ⟨(hside a rfl).mono hle', hside' b rfl⟩

theorem pairPoll {sides : Except String (Future ε ρ × Future ε ρ)}
    (hsides : ∀ a b, sides = .ok (a, b) → a.Of names kin ∧ b.Of names kin) :
    (Scoped.pairPoll sides).Of names kin := by
  cases sides with
  | error text => trivial
  | ok both => exact PairPoll.of_ofSides (hsides both.1 both.2 rfl).1 (hsides both.1 both.2 rfl).2

theorem pair {pollLeft pollRight : Scoped ε ρ (Poll ε ρ .async)} {left right : Future ε ρ}
    (hpollLeft : ∀ kin', kin ≤ kin' → PollWithin names kin' pollLeft)
    (hpollRight : ∀ kin', kin ≤ kin' → PollWithin names kin' pollRight)
    (hleft : left.Of names kin) (hright : right.Of names kin) :
    Within names kin (pair pollLeft pollRight left right) fun kin result => result.Of names kin := by
  refine takeTurn.bind fun kin' hle turn _ => ?_
  have hpollLeft' := hpollLeft kin' hle
  have hpollRight' := hpollRight kin' hle
  cases turn with
  | leftFirst =>
    refine (hpollLeft'.sides fun kin'' hle' => hpollRight kin'' (le_trans hle hle')).bind
      fun _ _ sides hsides => of_pure (pairPoll hsides)
  | rightFirst =>
    refine (hpollRight'.sides fun kin'' hle' => hpollLeft kin'' (le_trans hle hle')).bind
      fun _ _ sides hsides => of_pure (pairPoll fun a b hswap => ?_)
    cases sides with
    | error text => cases hswap
    | ok both =>
      cases hswap
      exact (hsides _ _ rfl).symm
  | leftOnly =>
    refine hpollLeft'.side.bind fun _ hle' side hside => of_pure (pairPoll fun a b hmap => ?_)
    cases side with
    | error text => cases hmap
    | ok a =>
      cases hmap
      exact ⟨hside _ rfl, hright.mono (le_trans hle hle')⟩
  | rightOnly =>
    refine hpollRight'.side.bind fun _ hle' side hside => of_pure (pairPoll fun a b hmap => ?_)
    cases side with
    | error text => cases hmap
    | ok b =>
      cases hmap
      exact ⟨hleft.mono (le_trans hle hle'), hside _ rfl⟩

theorem times {again : Future ε ρ → Scoped ε ρ (Poll ε ρ .async)}
    (hagain : ∀ kin (future : Future ε ρ), future.Of names kin → PollWithin names kin (again future))
    (polls : Nat) {future : Future ε ρ} (hfuture : future.Of names kin) :
    Within names kin (times again polls future) fun _ _ => True := by
  induction polls generalizing kin future with
  | zero => exact of_pure trivial
  | succ polls ih =>
    refine (hagain kin future hfuture).bind fun kin' _ result hresult => ?_
    cases result with
    | done exit => exact of_pure trivial
    | pending future => exact ih hresult

end Within

end Kin

/-! ### Polls -/

section

open Kin Kin.Within

variable {names : Set String} {kin : Kin} {againIn : Future ε ρ → Scoped ε ρ (Poll ε ρ .async)}

theorem Program.pollIn_keeps
    (hagain : ∀ kin (future : Future ε ρ), future.Of names kin → PollWithin names kin (againIn future))
    {m : Mode} (program : Program ε ρ m) (hprogram : program.Among names) :
    PollWithin names kin (program.pollIn againIn) := by
  have hcurrent : Target.Among names .current := trivial
  -- The kin grow from one operation to the next, so that the hypotheses must serve whatever they are.
  induction program generalizing kin with
  | ret value => exact of_pure trivial
  | panic text => exact of_pure trivial
  | emit event next ih => exact (report event).bind fun _ _ _ _ => ih hprogram
  | access target change next ih =>
    obtain ⟨htarget, hnext⟩ := hprogram
    rw [Program.pollIn]
    refine (find? htarget).bind fun _ _ found hfound => ?_
    cases found with
    | none => exact ih none (hnext none)
    | some h => exact (update (hfound h rfl) change).bind fun _ _ before _ => ih _ (hnext (some before))
  | hold target register next ih =>
    obtain ⟨htarget, hregister, hnext⟩ := hprogram
    rw [Program.pollIn]
    refine (find? htarget).bind fun _ _ found hfound => ?_
    cases found with
    | none => exact ih false (hnext false)
    | some h => exact (assign hregister (hfound h rfl)).bind fun _ _ _ _ => ih true (hnext true)
  | create register entries next ih => exact (make hprogram.1 entries).bind fun _ _ _ _ => ih hprogram.2
  | shares target other next ih =>
    obtain ⟨htarget, hother, hnext⟩ := hprogram
    rw [Program.pollIn]
    refine (find? htarget).bind fun _ _ found _ => (find? hother).bind fun _ _ found' _ => ?_
    cases found with
    | none => exact ih none (hnext none)
    | some h =>
      cases found' with
      | none => exact ih none (hnext none)
      | some h' => exact ih _ (hnext (some (decide (h = h'))))
  | withCurrent body next ihbody ih =>
    obtain ⟨hbody, hnext⟩ := hprogram
    rw [Program.pollIn]
    refine (find? hcurrent).bind fun kin' _ found hfound => ?_
    cases found with
    | none => exact ih none (hnext none)
    | some h =>
      have hlent : PollWithin names kin' (withReader (·.lend h) (body.pollIn againIn)) :=
        (ihbody hbody).elsewhere fun chain hchain => hchain.lend (hfound h rfl)
      refine hlent.bind fun _ _ result _ => ?_
      cases result with
      | done exit =>
        cases exit with
        | returned value => exact ih (some value) (hnext (some value))
        | panicked text => exact of_pure trivial
  | runSync target body next ihbody ih =>
    obtain ⟨htarget, hbody, hnext⟩ := hprogram
    rw [Program.pollIn]
    refine (binding htarget).bind fun _ _ binding hbinding => ?_
    refine (inside hbinding (ihbody hbody)).bind fun _ _ result _ => ?_
    cases result with
    | done exit =>
      cases exit with
      | returned value => exact ih value (hnext value)
      | panicked text => exact of_pure trivial
  | catchSync body next ihbody ih =>
    obtain ⟨hbody, hnext⟩ := hprogram
    rw [Program.pollIn]
    refine (ihbody hbody).bind fun _ _ result _ => ?_
    cases result with
    | done exit => exact ih exit (hnext exit)
  | run target body next ihbody ih =>
    obtain ⟨htarget, hbody, hnext⟩ := hprogram
    rw [Program.pollIn]
    refine (binding htarget).bind fun _ _ binding hbinding => ?_
    refine (inside hbinding (ihbody hbody)).bind fun _ hle result hresult => ?_
    cases result with
    | done exit =>
      cases exit with
      | returned value => exact ih value (hnext value)
      | panicked text => exact of_pure trivial
    | pending future => exact of_pure ⟨hbinding.mono hle, hresult, hnext⟩
  | catchPanic body next ihbody ih =>
    obtain ⟨hbody, hnext⟩ := hprogram
    rw [Program.pollIn]
    refine (ihbody hbody).bind fun _ _ result hresult => ?_
    cases result with
    | done exit => exact ih exit (hnext exit)
    | pending future => exact of_pure ⟨hresult, hnext⟩
  | wrap name body next ihbody ih =>
    obtain ⟨hname, hbody, hnext⟩ := hprogram
    refine (binding hcurrent).bind fun _ _ binding hbinding => ?_
    exact (keep hname hbinding hbody).bind fun _ _ _ _ => ih hnext
  | awaitWrapped name next ih =>
    obtain ⟨hname, hnext⟩ := hprogram
    rw [Program.pollIn]
    refine (takeWrapped? hname).bind fun kin' _ found hfound => ?_
    cases found with
    | none => exact of_pure trivial
    | some wrapped =>
      obtain ⟨binding, body⟩ := wrapped
      obtain ⟨hbinding, hbody⟩ := hfound binding body rfl
      refine (inside hbinding (hagain kin' (.ready body) hbody)).bind fun _ hle result hresult => ?_
      cases result with
      | done exit =>
        cases exit with
        | returned value => exact ih value (hnext value)
        | panicked text => exact of_pure trivial
      | pending future => exact of_pure ⟨hbinding.mono hle, hresult, hnext⟩
  | spawn name wrapped body next ihbody ih =>
    obtain ⟨hname, hbody, hnext⟩ := hprogram
    refine (binding hcurrent).bind fun kin' _ binding hbinding => ?_
    have hchosen : (if wrapped then binding else .free).Of kin' := by
      split
      · exact hbinding
      · exact fun _ hfree => by cases hfree
    exact (start hname hchosen hbody).bind fun _ _ _ _ => ih hnext
  | awaitTask name next ih =>
    obtain ⟨hname, hnext⟩ := hprogram
    rw [Program.pollIn]
    refine (takeTask? hname).bind fun _ _ found hfound => ?_
    cases found with
    | none => exact of_pure trivial
    | some task =>
      refine (taskExit? (hfound task rfl)).bind fun _ hle found _ => ?_
      cases found with
      | none => exact of_pure ⟨hle.1 (hfound task rfl), hnext⟩
      | some exit => exact ih exit (hnext exit)
  | pause next ih => exact of_pure hprogram
  | join left right next ihleft ihright ih =>
    obtain ⟨hleft, hright, hnext⟩ := hprogram
    rw [Program.pollIn]
    have hready (body : Program ε ρ .async) (hbody : body.Among names) : (Future.ready body).Of names kin := hbody
    have hpair : Within names kin _ fun kin (result : PairPoll ε ρ) => result.Of names kin :=
      pair (fun _ _ => ihleft hleft) (fun _ _ => ihright hright) (hready left hleft) (hready right hright)
    refine hpair.bind fun _ _ result hresult => ?_
    cases result with
    | both a b => exact ih a b (hnext a b)
    | panicked text => exact of_pure trivial
    | waiting left right => exact of_pure ⟨hresult.1, hresult.2, hnext⟩
  | abandon target polls body next ihbody ih =>
    obtain ⟨htarget, hbody, hnext⟩ := hprogram
    cases polls with
    | zero =>
      rw [Program.pollIn]
      exact ih none (hnext none)
    | succ polls =>
      rw [Program.pollIn]
      refine (binding htarget).bind fun _ _ binding hbinding => ?_
      refine (inside hbinding (ihbody hbody)).bind fun _ hle result hresult => ?_
      cases result with
      | done exit =>
        cases exit with
        | returned value => exact ih _ (hnext (some value))
        | panicked text => exact of_pure trivial
      | pending future =>
        have hleft : (Future.within binding future .ret).Of names _ :=
          ⟨hbinding.mono hle, hresult, fun _ => trivial⟩
        refine (times hagain polls hleft).bind fun _ _ found _ => ?_
        cases found with
        | none => exact ih none (hnext none)
        | some exit =>
          cases exit with
          | returned value => exact ih _ (hnext (some value))
          | panicked text => exact of_pure trivial

theorem Future.pollIn_keeps
    (hagain : ∀ kin (future : Future ε ρ), future.Of names kin → PollWithin names kin (againIn future))
    (future : Future ε ρ) (hfuture : future.Of names kin) :
    PollWithin names kin (future.pollIn againIn) := by
  induction future generalizing kin with
  | ready program => exact program.pollIn_keeps hagain hfuture
  | ended value => exact of_pure trivial
  | within binding body next ih =>
    obtain ⟨hbinding, hbody, hnext⟩ := hfuture
    refine (inside hbinding (ih hbody)).bind fun _ hle result hresult => ?_
    cases result with
    | done exit =>
      cases exit with
      | returned value => exact (next value).pollIn_keeps hagain (hnext value)
      | panicked text => exact of_pure trivial
    | pending future => exact of_pure ⟨hbinding.mono hle, hresult, hnext⟩
  | caught body next ih =>
    obtain ⟨hbody, hnext⟩ := hfuture
    refine (ih hbody).bind fun _ _ result hresult => ?_
    cases result with
    | done exit => exact (next exit).pollIn_keeps hagain (hnext exit)
    | pending future => exact of_pure ⟨hresult, hnext⟩
  | joined left right next ihleft ihright =>
    obtain ⟨hleft, hright, hnext⟩ := hfuture
    have hpair : Within names kin _ fun kin (result : PairPoll ε ρ) => result.Of names kin :=
      pair (fun _ hle => ihleft (hleft.mono hle)) (fun _ hle => ihright (hright.mono hle)) hleft hright
    refine hpair.bind fun _ _ result hresult => ?_
    cases result with
    | both a b => exact (next a b).pollIn_keeps hagain (hnext a b)
    | panicked text => exact of_pure trivial
    | waiting left right => exact of_pure ⟨hresult.1, hresult.2, hnext⟩
  | awaiting task next =>
    obtain ⟨htask, hnext⟩ := hfuture
    refine (taskExit? htask).bind fun _ hle found _ => ?_
    cases found with
    | none => exact of_pure ⟨hle.1 htask, hnext⟩
    | some exit => exact (next exit).pollIn_keeps hagain (hnext exit)

/-- A poll of a future that has nothing but its kin keeps to them. -/
theorem Future.pollInAt_keeps (depth : Nat) (kin : Kin) (future : Future ε ρ)
    (hfuture : future.Of names kin) : PollWithin names kin (future.pollInAt depth) := by
  induction depth generalizing kin future with
  | zero =>
    refine future.pollIn_keeps (fun _ future hleft => ?_) hfuture
    exact of_pure (a := Poll.pending future) hleft
  | succ depth ih => exact future.pollIn_keeps ih hfuture

end

end RequestScope
