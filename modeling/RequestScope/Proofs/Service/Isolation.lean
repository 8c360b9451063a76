import RequestScope.Proofs.Extent.Interleaving
import RequestScope.Service.ContextLayer

/-!
# Requests do not see each other

Any number of requests that come in at context layers, each with a program of its own inside the
layer, polled in any order. The contexts that they come to hold are distinct, and each request does
and finds what it does and finds alone.
-/

namespace RequestScope

/-- A request that comes in at a context layer: the layer and what it is given, and the order in which
polls of joins reach their sides. -/
structure Arrival where
  layer : ContextLayer
  ids : IdSupply
  inner : Service
  request : Http.Request
  turns : List Turn := []

namespace Arrival

open Process

/-- The process that serves a request. -/
def process (a : Arrival) (number : Nat) : Process LogRecord Outcome :=
  .ofProgram number a.turns (a.layer.around a.ids a.inner a.request)

/-- The processes of requests that are served on one thread. -/
def processes (arrivals : List Arrival) : List (Process LogRecord Outcome) :=
  arrivals.mapIdx fun number a => a.process number

theorem processes_sound (arrivals : List Arrival) : AllSound (processes arrivals) := by
  intro number p hget
  obtain ⟨a, -, rfl⟩ : ∃ a, arrivals[number]? = some a ∧ a.process number = p := by
    simpa [processes] using hget
  exact ofProgram_sound number a.turns _

theorem accompanied {arrivals : List Arrival} {number : Nat} {a : Arrival}
    (hget : arrivals[number]? = some a) :
    Accompanied number (processes arrivals) .empty (a.process number) .empty :=
  ⟨processes_sound arrivals, by simp [processes, hget], .refl number .empty⟩

/-- Under every schedule no handle of one request is a handle of another, and each request has come as
far, with the same events, the same exit and the same entries in each of its contexts, as it has come
alone when its own choices were made and no others. When all are served round by round, each ends as it
ends alone. -/
theorem requests_isolated (depth : Nat) (arrivals : List Arrival) (schedule : List (Nat × Choice)) :
    let together := followAmong depth schedule (processes arrivals) {}
    (∀ (number number' : Nat) (p p' : Process LogRecord Outcome) (h h' : Handle),
      number ≠ number' → together.1[number]? = some p → together.1[number']? = some p' →
      p.Holds h → p'.Holds h' → h ≠ h') ∧
    ∀ (number : Nat) (a : Arrival), arrivals[number]? = some a →
      (let alone := (a.process number).follow depth (choicesFor number schedule) {}
      together.1[number]? = some alone.1 ∧
        ∀ h, h.owner = number → together.2.heap.read h = alone.2.heap.read h) ∧
      ∀ rounds, (finishAll depth rounds (processes arrivals) {}).1[number]? =
        some ((a.process number).finish depth rounds {}).1 := by
  have hsound := followAmong_sound depth schedule (processes_sound arrivals) .empty
  refine ⟨fun number number' p p' h h' hne hget hget' hholds hholds' heq => ?_,
    fun number a hget => ⟨?_, ?_⟩⟩
  · have hown : h.owner = number := (hsound number p hget).owned h hholds
    have hown' : h'.owner = number' := (hsound number' p' hget').owned h' hholds'
    exact hne (hown.symm.trans ((congrArg Handle.owner heq).trans hown'))
  · obtain ⟨processes', after, p', after', htogether, halone, h⟩ :=
      (accompanied hget).follow depth schedule
    simp only [htogether, halone]
    exact ⟨h.get, h.agree⟩
  · exact fun rounds => finishAll_alone (accompanied hget) depth rounds

/-- Two copies of one request, each suspended after its first write, hold different contexts. -/
theorem requests_isolated_pair :
    let a : Arrival :=
      { layer := {}
        ids := .ofSource fun _ _ => ""
        inner := fun _ => .insert .current "key" .null fun _ => .pause (.ret (.value .null))
        request := ⟨"GET", ⟨"/", none⟩, [], []⟩ }
    let together := followAmong 0 [(0, .root), (1, .root)] (processes [a, a]) {}
    ∃ p p', together.1[0]? = some p ∧ together.1[1]? = some p' ∧
      p.Holds ⟨0, 0⟩ ∧ p'.Holds ⟨1, 0⟩ ∧ (⟨0, 0⟩ : Handle) ≠ ⟨1, 0⟩ := by
  intro a together
  obtain ⟨hdistinct, -⟩ := requests_isolated 0 [a, a] [(0, .root), (1, .root)]
  refine ⟨_, _, rfl, rfl, .inl (.inl rfl), .inl (.inl rfl), ?_⟩
  exact hdistinct 0 1 _ _ _ _ (by decide) rfl rfl (.inl (.inl rfl)) (.inl (.inl rfl))

end Arrival

end RequestScope
