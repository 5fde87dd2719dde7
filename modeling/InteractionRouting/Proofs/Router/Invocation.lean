import InteractionRouting.Router
import Mathlib.Tactic.Common

/-!
# The handlers that a router runs

For an event a router runs one handler or none.  A handler that is run gets an interaction that
nothing was done with, and what comes of the event is what comes of that one run: one subscriber
was run, and all that happens happens in its run.  Where there is none, nothing happens.
-/

namespace InteractionRouting.Router

variable {ν : Type}

/-- A run of a handler for an event. -/
structure Invocation (ν : Type) where
  /-- What the handler is called in reports. -/
  subscriber : String
  /-- The interaction it is given. -/
  interaction : Interaction
  /-- What it does for its input. -/
  conduct : Conduct ν

/-- What comes of the run of a handler, after the platform calls made before. -/
def Invocation.deliver (i : Invocation ν) (target : String) (p : Platform) (past : List Call)
    (tag : String) : Delivery ν :=
  let t := i.conduct.run p past i.interaction
  .ofRun target tag i.subscriber t.ending t.happenings

/-- The runs of handlers that are decided on. -/
def Decision.invocations : Decision ν → List (Invocation ν)
  | pass => []
  | refuse _ _ => []
  | run subscriber interaction conduct => [⟨subscriber, interaction, conduct⟩]

/-- The runs of handlers for an event. -/
def invocations (r : Router ν) (tag : String) (payload : Json) : List (Invocation ν) :=
  (r.decision tag payload).invocations

/-- A decision runs at most one handler. -/
theorem Decision.length_invocations_le_one (d : Decision ν) :
  d.invocations.length ≤ 1
  := by
  cases d with
  | pass => exact Nat.zero_le 1
  | refuse subscriber error => exact Nat.zero_le 1
  | run subscriber interaction conduct => exact Nat.le_refl 1

/-- As many subscribers were run as there are runs.  If a panic gets out there is no count, and
there is one run. -/
theorem delivered_dispatch (r : Router ν) (p : Platform) (past : List Call) (tag : String)
    (payload : Json) :
  (r.dispatch p past tag payload).outcome.elim 1 Outcome.delivered
    = (r.invocations tag payload).length
  := by
  rw [dispatch, invocations]
  cases r.decision tag payload with
  | pass => rfl
  | refuse subscriber error => rfl
  | run subscriber interaction conduct =>
    rw [carryOut, Delivery.ofRun]
    cases (conduct.run p past interaction).ending.guarded with
    | error panic => rfl
    | ok verdict => rfl

/-- What comes of an event for which a handler is run is what comes of that run. -/
theorem dispatch_of_invocations_eq {r : Router ν} {tag : String} {payload : Json}
    {i : Invocation ν} (h : r.invocations tag payload = [i]) (p : Platform) (past : List Call) :
  r.dispatch p past tag payload = i.deliver r.name p past tag
  := by
  rw [invocations] at h
  rw [dispatch]
  cases hdecision : r.decision tag payload with
  | pass =>
    rw [hdecision] at h
    contradiction
  | refuse subscriber error =>
    rw [hdecision] at h
    contradiction
  | run subscriber interaction conduct =>
    rw [hdecision, Decision.invocations, List.singleton_inj] at h
    rw [← h]
    rfl

/-- Where no handler is run nothing happens. -/
theorem happenings_dispatch_of_invocations_eq_nil {r : Router ν} {tag : String} {payload : Json}
    (h : r.invocations tag payload = []) (p : Platform) (past : List Call) :
  (r.dispatch p past tag payload).happenings = []
  := by
  rw [invocations] at h
  rw [dispatch]
  cases hdecision : r.decision tag payload with
  | pass => rfl
  | refuse subscriber error => rfl
  | run subscriber interaction conduct =>
    rw [hdecision] at h
    contradiction

/-- An event that is passed over runs no handler. -/
theorem invocations_of_pass {r : Router ν} {tag : String} {payload : Json}
    (h : r.decision tag payload = .pass) :
  r.invocations tag payload = []
  := by
  rw [invocations, h]
  rfl

/-- An event that is let pass leaves no trace. -/
theorem dispatch_of_pass {r : Router ν} {tag : String} {payload : Json}
    (h : r.decision tag payload = .pass) (p : Platform) (past : List Call) :
  r.dispatch p past tag payload = .none
  := by
  rw [dispatch, h]
  rfl

/-- For an event one handler is run, and what comes of the event is what comes of that run. -/
def Runs (r : Router ν) (tag : String) (payload : Json) (i : Invocation ν) : Prop :=
  r.invocations tag payload = [i]
    ∧ ∀ (p : Platform) (past : List Call),
        r.dispatch p past tag payload = i.deliver r.name p past tag

/-- For an event no handler is run, and nothing comes of it. -/
def Ignores (r : Router ν) (tag : String) (payload : Json) : Prop :=
  r.invocations tag payload = []
    ∧ ∀ (p : Platform) (past : List Call), r.dispatch p past tag payload = .none

/-- A decision to run a handler runs it. -/
theorem runs_of_run {r : Router ν} {tag : String} {payload : Json} {subscriber : String}
    {interaction : Interaction} {conduct : Conduct ν}
    (h : r.decision tag payload = .run subscriber interaction conduct) :
  r.Runs tag payload ⟨subscriber, interaction, conduct⟩
  := by
  have hinvocations : r.invocations tag payload = [⟨subscriber, interaction, conduct⟩] := by
    rw [invocations, h]
    rfl
  exact ⟨hinvocations, dispatch_of_invocations_eq hinvocations⟩

/-- An event that is passed over is ignored. -/
theorem ignores_of_pass {r : Router ν} {tag : String} {payload : Json}
    (h : r.decision tag payload = .pass) :
  r.Ignores tag payload
  := by
  exact ⟨invocations_of_pass h, dispatch_of_pass h⟩

/-! ### What is decided on the three kinds of events -/

/-- A command that is read is decided on. -/
theorem decision_command {r : Router ν} {payload : Json} {e : CommandEnvelope}
    (h : CommandEnvelope.codec.decode .direct payload = .ok e) :
  r.decision Event.commandTag payload = r.decideCommand e
  := by
  rw [decision, if_pos rfl, readPayload, h]
  rfl

/-- A component that is read is decided on. -/
theorem decision_component {r : Router ν} {payload : Json} {e : ComponentEnvelope}
    (h : ComponentEnvelope.codec.decode .direct payload = .ok e) :
  r.decision Event.componentTag payload = r.decideComponent e
  := by
  rw [decision, if_neg (by decide), if_pos rfl, readPayload, h]
  rfl

/-- A form that is read is decided on. -/
theorem decision_modal {r : Router ν} {payload : Json} {e : ModalEnvelope}
    (h : ModalEnvelope.codec.decode .direct payload = .ok e) :
  r.decision Event.modalTag payload = r.decideModal e
  := by
  rw [decision, if_neg (by decide), if_neg (by decide), if_pos rfl, readPayload, h]
  rfl

/-- No handler is run for a command that does not read. -/
theorem invocations_command_of_error {payload : Json} {m : Wire.Mismatch}
    (h : CommandEnvelope.codec.decode .direct payload = .error m) (r : Router ν) :
  r.invocations Event.commandTag payload = []
  := by
  rw [invocations, decision, if_pos rfl, readPayload, h]
  rfl

/-! ### The interaction is fresh -/

/-- Nothing was done with the interaction that a handler is given. -/
def Decision.IsFresh (d : Decision ν) : Prop :=
  ∀ i ∈ d.invocations, ∃ id token origin, i.interaction = .fresh id token origin

theorem isFresh_pass :
  (Decision.pass : Decision ν).IsFresh
  := by
  rintro i ⟨⟩

theorem isFresh_refuse (subscriber error : String) :
  (Decision.refuse subscriber error : Decision ν).IsFresh
  := by
  rintro i ⟨⟩

theorem isFresh_run (subscriber id token : String) (origin : Origin) (conduct : Conduct ν) :
  (Decision.run subscriber (.fresh id token origin) conduct).IsFresh
  := by
  intro i hi
  obtain rfl := List.mem_singleton.mp hi
  use id, token, origin

/-- A handler of commands begins a new interaction. -/
theorem isFresh_decideCommand (r : Router ν) (e : CommandEnvelope) :
  (r.decideCommand e).IsFresh
  := by
  rw [decideCommand]
  split
  · apply isFresh_pass
  · dsimp only
    split
    · apply isFresh_refuse
    · split
      · apply isFresh_refuse
      · apply isFresh_run

/-- A handler of components begins a new interaction. -/
theorem isFresh_decideComponent (r : Router ν) (e : ComponentEnvelope) :
  (r.decideComponent e).IsFresh
  := by
  rw [decideComponent]
  split
  · apply isFresh_pass
  · split
    · apply isFresh_pass
    · apply isFresh_run

/-- A handler of forms begins a new interaction. -/
theorem isFresh_decideModal (r : Router ν) (e : ModalEnvelope) :
  (r.decideModal e).IsFresh
  := by
  rw [decideModal]
  split
  · apply isFresh_pass
  · split
    · apply isFresh_pass
    · apply isFresh_run

/-- Whatever is decided on, a handler begins a new interaction. -/
theorem isFresh_decision (r : Router ν) (tag : String) (payload : Json) :
  (r.decision tag payload).IsFresh
  := by
  rw [decision]
  split_ifs
  · split
    · apply isFresh_refuse
    · apply isFresh_decideCommand
  · split
    · apply isFresh_refuse
    · apply isFresh_decideComponent
  · split
    · apply isFresh_refuse
    · apply isFresh_decideModal
  · apply isFresh_pass

end InteractionRouting.Router
