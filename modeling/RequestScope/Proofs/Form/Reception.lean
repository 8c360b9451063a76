import RequestScope.Proofs.Form.Reports
import RequestScope.Service.Lookup

/-!
# Forms on the way to handlers

What becomes of a request with a form is decided in two stages: the body is read, and what was read is
held against the rules. Each outcome of the two stages has one lemma here, for the reception of the
form and for the program of the handler behind it.
-/

namespace RequestScope

/-- Events in front of a program stay in front of it. -/
theorem Program.bind_emitAll {ε ρ : Type} {m : Mode} (events : List ε) (program : Program ε ρ m)
    (f : ρ → Program ε ρ m) : (emitAll events program).bind f = emitAll events (program.bind f) := by
  induction events with
  | nil => rfl
  | cons event events ih => exact congrArg (emit event) ih

/-- The reader of bodies panics at a stated length with a plus sign. -/
def Http.Headers.UpsetReader (headers : Http.Headers) : Prop :=
  (headers.announceJson && headers.stateSignedLength) = true

namespace Form

open Compression (Unpackers)

variable {α : Type} (form : Form α) (unpackers : Unpackers) (request : Http.Request)

/-- The body of a request is read as contents, whether these keep the rules or not. -/
def Yields (contents : α) : Prop :=
  ¬ request.headers.UpsetReader ∧ form.decode unpackers request.headers request.body = .ok contents

/-- The body of a request cannot be read, for a reason in words. -/
def Fails (text : String) : Prop :=
  ¬ request.headers.UpsetReader ∧
    ∃ fault, form.decode unpackers request.headers request.body = .error fault ∧ fault.message = text

theorem read_cases :
    request.headers.UpsetReader ∨ (∃ text, form.Fails unpackers request text) ∨
      ∃ contents, form.Yields unpackers request contents := by
  by_cases hupset : request.headers.UpsetReader
  · exact .inl hupset
  · cases hread : form.decode unpackers request.headers request.body with
    | error fault => exact .inr (.inl ⟨_, hupset, fault, hread, rfl⟩)
    | ok contents => exact .inr (.inr ⟨contents, hupset, hread⟩)

variable {form unpackers request}

theorem receive_of_upset (h : request.headers.UpsetReader) :
    form.receive request.headers request.body unpackers = (.panicked signedLengthPanic, []) := if_pos h

theorem receive_of_read (h : ¬ request.headers.UpsetReader) :
    form.receive request.headers request.body unpackers =
      match form.decode unpackers request.headers request.body with
      | .error fault => (.refused (.validation fault.message), [])
      | .ok contents =>
        if (form.check contents).isEmpty then (.accepted contents, [])
        else (.refused (.invalidFields (form.check contents)), [rejection (form.check contents)]) :=
  if_neg h

theorem receive_of_fails {text : String} (h : form.Fails unpackers request text) :
    form.receive request.headers request.body unpackers = (.refused (.validation text), []) := by
  obtain ⟨hupset, fault, hread, rfl⟩ := h
  rw [receive_of_read hupset, hread]

theorem receive_of_keeps {contents : α} (h : form.Yields unpackers request contents)
    (hkeeps : form.Keeps contents) :
    form.receive request.headers request.body unpackers = (.accepted contents, []) := by
  obtain ⟨hupset, hread⟩ := h
  rw [receive_of_read hupset, hread]
  exact if_pos ((form.isEmpty_check_iff contents).mpr hkeeps)

theorem receive_of_breaks {contents : α} (h : form.Yields unpackers request contents)
    (hbreaks : ¬ form.Keeps contents) :
    form.receive request.headers request.body unpackers =
      (.refused (.invalidFields (form.check contents)), [rejection (form.check contents)]) := by
  obtain ⟨hupset, hread⟩ := h
  rw [receive_of_read hupset, hread]
  exact if_neg fun hempty => hbreaks ((form.isEmpty_check_iff contents).mp hempty)

theorem submitted_of_accepted {contents : α}
    (h : form.receive request.headers request.body unpackers = (.accepted contents, [])) (next : α → Work) :
    Work.submitted unpackers form request next = next contents := by
  rw [Work.submitted, h]
  rfl

/-- The handler behind a refused form is not called; its route answers for it. -/
theorem submitted_of_refused {failure : Failure} {records : List LogRecord}
    (h : form.receive request.headers request.body unpackers = (.refused failure, records))
    (hstatus : failure.status = .badRequest) (next : α → Work) :
    (Work.submitted unpackers form request next).bind Work.settle =
      .emitAll records (Work.respond failure.response) := by
  have hsettle : Work.settle (.failure failure) = Work.respond failure.response := by
    rw [Work.settle, Failure.records, hstatus]
    rfl
  rw [Work.submitted, h, Program.bind_emitAll, ← hsettle]
  rfl

end Form

end RequestScope
