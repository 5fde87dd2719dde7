import InteractionRouting.EventLoop
import InteractionRouting.Proofs.Exchange.Turns
import Mathlib.Algebra.GroupWithZero.Nat
import Mathlib.Data.List.Perm.Basic
import Mathlib.Tactic.Common

/-!
# What the event loop counts

The loop may take events, complete tasks and stop in any order.  Whatever it did, every event
it took was dispatched once or is in flight, and its counts are those of the dispatches that
ran to their end.  When it has finished, nothing is in flight; when it was not shut down, it
has taken all events, and its counts are the same in every order of moves.

A dispatch does not run to its end when a panic gets out: the reporter panics, or an error does that
is asked for what it says.
-/

namespace InteractionRouting

namespace Exchange

variable {ν : Type}

/-- The reporter panics on one of the failures. -/
def PanicsOn (x : Exchange ν) (failures : List Failure) : Prop :=
  ∃ f ∈ failures, ∃ panic, (x.reporter f).result = .error panic

/-- The reporter never panics. -/
def Calm (x : Exchange ν) : Prop :=
  ∀ f, (x.reporter f).result = .ok ()

/-- Whatever events the parties are handed, every error that a handler or a subscriber returns says
something. -/
def Tells (x : Exchange ν) (p : Platform) : Prop :=
  ∀ tag payload, ∀ t ∈ x.parties.flatMap (·.turns tag payload), t.Tells p payload

/-- Reporting failures ends in a panic exactly if the reporter panics on one of them. -/
theorem exists_result_report_eq_error_iff {x : Exchange ν} {failures : List Failure} :
  (∃ panic, (x.report failures).result = .error panic) ↔ x.PanicsOn failures
  := by
  unfold PanicsOn
  induction failures with
  | nil => simp [report]
  | cons f rest ih =>
    rw [report, List.exists_mem_cons_iff]
    cases hresult : (x.reporter f).result with
    | error panic => simp [hresult]
    | ok _ => simp [ih]

/-- A reporter that never panics does not on any failures. -/
theorem Calm.not_panicsOn {x : Exchange ν} (h : x.Calm) (failures : List Failure) :
  ¬ x.PanicsOn failures
  := by
  rintro ⟨f, -, panic, hresult⟩
  rw [h f] at hresult
  contradiction

/-- A dispatch comes to what came of its event at the parties, unless the reporter panics on one
of the failures. -/
theorem outcome_dispatch_eq_some_iff {x : Exchange ν} {p : Platform} {past : List Call}
    {tag : String} {payload : Json} {o : Outcome} :
  (x.dispatch p past tag payload).outcome = some o
    ↔ (deliver p tag payload past x.parties).outcome = some o ∧ ¬ x.PanicsOn o.failures
  := by
  rw [dispatch]
  dsimp only
  cases houtcome : (deliver p tag payload past x.parties).outcome with
  | none => simp [houtcome]
  | some outcome =>
    dsimp only
    rw [← exists_result_report_eq_error_iff]
    cases hresult : (x.report outcome.failures).result with
    | error panic =>
      apply iff_of_false
      · intro heq
        contradiction
      · rintro ⟨heq, hnot⟩
        obtain rfl := Option.some.inj heq
        exact hnot ⟨panic, hresult⟩
    | ok _ =>
      constructor
      · intro heq
        obtain rfl := Option.some.inj heq
        refine ⟨rfl, ?_⟩
        rintro ⟨panic, hpanic⟩
        rw [hresult] at hpanic
        contradiction
      · rintro ⟨heq, -⟩
        exact heq

/-- A dispatch comes to nothing exactly if a panic gets out of a party, or of the reporter. -/
theorem outcome_dispatch_eq_none_iff {x : Exchange ν} {p : Platform} {past : List Call}
    {tag : String} {payload : Json} :
  (x.dispatch p past tag payload).outcome = none
    ↔ (∃ taken happenings, Turn.CutShort p tag payload past
        (x.parties.flatMap (·.turns tag payload)) taken happenings)
      ∨ ∃ o, (deliver p tag payload past x.parties).outcome = some o ∧ x.PanicsOn o.failures
  := by
  rw [Option.eq_none_iff_forall_ne_some, ← outcome_deliver_eq_none_iff]
  simp only [ne_eq, outcome_dispatch_eq_some_iff, not_and_not_right]
  cases (deliver p tag payload past x.parties).outcome with
  | none => simp
  | some o => simp

/-- Where the reporter never panics and every error says something, a dispatch comes to an
outcome. -/
theorem isSome_outcome_dispatch {x : Exchange ν} {p : Platform} (hcalm : x.Calm)
    (htells : x.Tells p) (past : List Call) (tag : String) (payload : Json) :
  (x.dispatch p past tag payload).outcome.isSome = true
  := by
  rw [← Option.ne_none_iff_isSome, ne_eq, outcome_dispatch_eq_none_iff, not_or]
  constructor
  · rintro ⟨taken, happenings, hcut⟩
    obtain ⟨t, ht, hnot⟩ := hcut.exists_not_tells
    exact hnot (htells tag payload t ht)
  · rintro ⟨o, -, hpanics⟩
    exact hcalm.not_panicsOn _ hpanics

end Exchange

namespace EventLoop

variable {ν : Type}

/-! ### Moves -/

/-- The loop gets from one state to another by moves that it can make. -/
inductive Steps (l : EventLoop ν) : State ν → List Move → State ν → Prop where
  | stay (s : State ν) : Steps l s [] s
  | move {s s' s'' : State ν} {m : Move} {moves : List Move} (h : s.step? l m = some s')
      (rest : Steps l s' moves s'') : Steps l s (m :: moves) s''

/-- What a move that the loop can make comes to. -/
inductive Made (l : EventLoop ν) (s : State ν) : Move → State ν → Prop where
  | takeSpawning {e : Event} {rest : List Event} (hspawning : l.spawning = true)
      (hrunning : s.phase = .running) (hwaiting : s.waiting = e :: rest) :
      Made l s .take
        { s with waiting := rest, tally := s.tally.receive, inFlight := s.inFlight ++ [e] }
  | takeInPlace {e : Event} {rest : List Event} (hspawning : l.spawning = false)
      (hrunning : s.phase = .running) (hwaiting : s.waiting = e :: rest) :
      Made l s .take
        (State.dispatchInPlace l { s with waiting := rest, tally := s.tally.receive } e)
  | complete {e : Event} {position : Nat} (hphase : s.phase ≠ .broken)
      (hposition : s.inFlight[position]? = some e) :
      Made l s (.complete position)
        (State.dispatch l { s with inFlight := s.inFlight.eraseIdx position } e)
  | close (hrunning : s.phase = .running) (hwaiting : s.waiting = []) :
      Made l s .close { s with phase := .draining }
  | shutDown (hrunning : s.phase = .running) : Made l s .shutDown { s with phase := .draining }

/-- There are no other moves than these, and they come to nothing else. -/
theorem made_of_step? {l : EventLoop ν} {s s' : State ν} {m : Move} (h : s.step? l m = some s') :
  Made l s m s'
  := by
  obtain ⟨waiting, inFlight, phase, tally, dispatched, happenings⟩ := s
  cases m with
  | take =>
    rw [State.step?] at h
    cases phase with
    | draining | broken => contradiction
    | running =>
      cases waiting with
      | nil => contradiction
      | cons e rest =>
        cases hspawning : l.spawning with
        | true =>
          simp only [hspawning, if_true, Option.some.injEq] at h
          obtain rfl := h
          exact .takeSpawning hspawning rfl rfl
        | false =>
          simp only [hspawning, Bool.false_eq_true, if_false, Option.some.injEq] at h
          obtain rfl := h
          exact .takeInPlace hspawning rfl rfl
  | complete position =>
    simp only [State.step?] at h
    cases hposition : inFlight[position]? with
    | none =>
      rw [hposition] at h
      cases phase with
      | running | draining | broken => contradiction
    | some e =>
      rw [hposition] at h
      cases phase with
      | broken => contradiction
      | running | draining =>
        obtain rfl := Option.some.inj h
        exact .complete (by simp) hposition
  | close =>
    rw [State.step?, Option.ite_none_right_eq_some] at h
    obtain ⟨⟨hrunning, hwaiting⟩, heq⟩ := h
    obtain rfl := Option.some.inj heq
    exact .close hrunning hwaiting
  | shutDown =>
    rw [State.step?, Option.ite_none_right_eq_some] at h
    obtain ⟨hrunning, heq⟩ := h
    obtain rfl := Option.some.inj heq
    exact .shutDown hrunning

/-! ### Single dispatches -/

/-- What comes of dispatching an event after what happened before. -/
def handle (l : EventLoop ν) (past : List (Happening ν)) (e : Event) : Delivery ν :=
  l.exchange.dispatch l.platform (Happening.calls past) e.tag e.payload

/-- What comes of an event at the parties before failures are reported. -/
def deliver (l : EventLoop ν) (past : List (Happening ν)) (e : Event) : Delivery ν :=
  Exchange.deliver l.platform e.tag e.payload (Happening.calls past) l.exchange.parties

/-- The turns on an event are cut short: in one of them an error is returned that panics when it is
asked for what it says. -/
def CutsShort (l : EventLoop ν) (past : List (Happening ν)) (e : Event) : Prop :=
  ∃ taken happenings, Turn.CutShort l.platform e.tag e.payload (Happening.calls past)
    (l.exchange.parties.flatMap (·.turns e.tag e.payload)) taken happenings

/-- Dispatches that came one after the other, each of the tag and the payload of its event,
with all that happened before and meanwhile. -/
inductive Serial (l : EventLoop ν) (past : List (Happening ν)) :
    List (Event × Option Outcome) → List (Happening ν) → Prop where
  | start : Serial l past [] past
  | dispatch {done : List (Event × Option Outcome)} {happenings : List (Happening ν)}
      (h : Serial l past done happenings) (e : Event) :
      Serial l past (done ++ [(e, (l.handle happenings e).outcome)])
        (happenings ++ (l.handle happenings e).happenings)

/-- What came of each event is what comes of dispatching it at some time. -/
theorem Serial.outcome_eq {l : EventLoop ν} {past happenings : List (Happening ν)}
    {done : List (Event × Option Outcome)} (h : Serial l past done happenings)
    {d : Event × Option Outcome} (hd : d ∈ done) :
  ∃ before, d.2 = (l.handle before d.1).outcome
  := by
  induction h with
  | start => contradiction
  | dispatch _ e ih =>
    obtain hd | hd := List.mem_append.mp hd
    · apply ih hd
    · rw [List.mem_singleton.mp hd]
      exact ⟨_, rfl⟩

/-! ### Books -/

/-- The outcomes of the dispatches that ran to their end. -/
def State.completed (s : State ν) : List Outcome := s.dispatched.filterMap Prod.snd

/-- A dispatch adds its outcome to those that ran to their end, if it has one. -/
theorem State.completed_dispatch (l : EventLoop ν) (s : State ν) (e : Event) :
  (s.dispatch l e).completed = s.completed ++ (l.handle s.happenings e).outcome.toList
  := by
  rw [completed, completed, dispatch, List.filterMap_append]
  apply congrArg
  rw [handle]
  cases (l.exchange.dispatch l.platform (Happening.calls s.happenings) e.tag e.payload).outcome with
  | none => rfl
  | some o => rfl

/-- The books of the loop: each event that was taken was dispatched once or is `pending`, and
the counts are those of the dispatches that ran to their end. -/
structure Accounts (l : EventLoop ν) (events : List Event) (past : List (Happening ν))
    (pending : List Event) (s : State ν) : Prop where
  taken : ∃ taken, taken ++ s.waiting = events ∧ s.tally.received = taken.length
    ∧ (s.dispatched.map Prod.fst ++ pending).Perm taken
  serial : Serial l past s.dispatched s.happenings
  dispatched : s.tally.dispatched = s.completed.length
  deliveries : s.tally.deliveries = (s.completed.map Outcome.delivered).sum
  failures : s.tally.failures = (s.completed.map (·.failures.length)).sum

/-- The books are in order before the first move. -/
theorem accounts_initial (l : EventLoop ν) (events : List Event) (past : List (Happening ν)) :
  Accounts l events past [] (.initial events past)
  where
  taken := ⟨[], rfl, rfl, List.Perm.refl _⟩
  serial := .start
  dispatched := rfl
  deliveries := rfl
  failures := rfl

section

variable {l : EventLoop ν} {events rest pending pending' : List Event}
  {past : List (Happening ν)} {s : State ν} {e : Event}

/-- The books do not say what the loop is about to do. -/
theorem Accounts.of_changed (h : Accounts l events past pending s) (inFlight : List Event)
    (phase : Phase) :
  Accounts l events past pending { s with inFlight := inFlight, phase := phase }
  := ⟨h.taken, h.serial, h.dispatched, h.deliveries, h.failures⟩

/-- An event that is taken becomes pending. -/
theorem Accounts.receive (h : Accounts l events past pending s) (hwaiting : s.waiting = e :: rest) :
  Accounts l events past (pending ++ [e]) { s with waiting := rest, tally := s.tally.receive }
  := by
  obtain ⟨taken, hevents, hreceived, hperm⟩ := h.taken
  refine ⟨⟨taken ++ [e], ?_, ?_, ?_⟩, h.serial, h.dispatched, h.deliveries, h.failures⟩
  · rw [← hevents, hwaiting, List.append_assoc, List.singleton_append]
  · simp [Tally.receive, hreceived]
  · rw [← List.append_assoc]
    apply hperm.append_right

/-- A pending event that is dispatched is pending no more. -/
theorem Accounts.dispatch (h : Accounts l events past pending s)
    (hpending : pending.Perm (e :: pending')) :
  Accounts l events past pending' (s.dispatch l e)
  := by
  obtain ⟨taken, hevents, hreceived, hperm⟩ := h.taken
  have hdispatched : ((s.dispatch l e).dispatched.map Prod.fst ++ pending').Perm taken := by
    rw [State.dispatch, List.map_append, List.append_assoc]
    apply List.Perm.trans _ hperm
    apply List.Perm.append_left
    apply hpending.symm
  have htally : (s.dispatch l e).tally = s.tally.record (l.handle s.happenings e).outcome := rfl
  constructor
  · refine ⟨taken, hevents, ?_, hdispatched⟩
    rw [htally, ← hreceived]
    cases (l.handle s.happenings e).outcome with
    | none => rfl
    | some o => rfl
  · apply h.serial.dispatch e
  all_goals
    rw [htally, State.completed_dispatch]
    cases (l.handle s.happenings e).outcome with
    | none => simp [Tally.record, h.dispatched, h.deliveries, h.failures]
    | some o => simp [Tally.record, h.dispatched, h.deliveries, h.failures]

end

/-! ### Runs -/

/-- A dispatch in place does what any dispatch does, and tears down the loop if there is no outcome.
-/
theorem State.dispatchInPlace_eq (l : EventLoop ν) (s : State ν) (e : Event) :
  s.dispatchInPlace l e
    = { s.dispatch l e with
        phase := if (l.handle s.happenings e).outcome.isNone then .broken else s.phase }
  := by
  rw [dispatchInPlace, handle]
  split_ifs with h
  · rfl
  · rfl

/-- The loop at any time.  What is in flight is pending in its books; when it dispatches in
place nothing is in flight, and it breaks at the first dispatch that comes to nothing. -/
structure Sound (l : EventLoop ν) (events : List Event) (past : List (Happening ν))
    (s : State ν) : Prop where
  accounts : Accounts l events past s.inFlight s
  inFlight_nil : l.spawning = false → s.inFlight = []
  kept : l.spawning = false → s.phase ≠ .broken → ∀ d ∈ s.dispatched, d.2.isSome = true

/-- All is in order before the first move. -/
theorem sound_initial (l : EventLoop ν) (events : List Event) (past : List (Happening ν)) :
  Sound l events past (.initial events past)
  := by
  constructor
  · apply accounts_initial
  · intro _
    rfl
  · intro _ _ d hd
    contradiction

/-- No move spoils the books. -/
theorem Sound.step {l : EventLoop ν} {events : List Event} {past : List (Happening ν)}
    {s s' : State ν} {m : Move} (h : Sound l events past s) (hstep : s.step? l m = some s') :
  Sound l events past s'
  := by
  cases made_of_step? hstep with
  | takeSpawning hspawning _ hwaiting =>
    refine ⟨(h.accounts.receive hwaiting).of_changed _ _, ?_, ?_⟩
    all_goals
      intro hinPlace
      rw [hspawning] at hinPlace
      contradiction
  | @takeInPlace e _ hspawning hrunning hwaiting =>
    -- The event is pending while it is dispatched, and nothing else is.
    have hnil := h.inFlight_nil hspawning
    have hpending : (s.inFlight ++ [e]).Perm [e] := by
      rw [hnil]
      rfl
    have haccounts := (h.accounts.receive hwaiting).dispatch hpending
    rw [State.dispatchInPlace_eq]
    constructor
    · rw [← hnil] at haccounts
      apply haccounts.of_changed
    · intro _
      exact hnil
    · intro _ hphase d hd
      obtain hd | hd := List.mem_append.mp hd
      · apply h.kept hspawning _ d hd
        rw [hrunning]
        simp
      · rw [List.mem_singleton.mp hd, ← Option.not_isNone, Bool.not_eq_true', ← Bool.not_eq_true]
        intro hnone
        exact hphase (if_pos hnone)
  | @complete e position hphase hposition =>
    have hperm : s.inFlight.Perm (e :: s.inFlight.eraseIdx position) := by
      obtain ⟨hlt, rfl⟩ := List.getElem?_eq_some_iff.mp hposition
      apply (List.getElem_cons_eraseIdx_perm hlt).symm
    constructor
    · apply (h.accounts.of_changed _ _).dispatch hperm
    all_goals
      intro hspawning
      rw [h.inFlight_nil hspawning] at hposition
      contradiction
  | close hrunning _ | shutDown hrunning =>
    refine ⟨h.accounts.of_changed _ _, h.inFlight_nil, ?_⟩
    intro hspawning _
    apply h.kept hspawning
    rw [hrunning]
    simp

/-- All stays in order, whatever moves are made. -/
theorem Steps.sound {l : EventLoop ν} {events : List Event} {past : List (Happening ν)}
    {s s' : State ν} {moves : List Move} (h : Steps l s moves s') (hs : Sound l events past s) :
  Sound l events past s'
  := by
  induction h with
  | stay => apply hs
  | move hstep _ ih => apply ih (hs.step hstep)

/-- A loop that stops without being shut down has taken all events. -/
theorem waiting_eq_nil_of_step {l : EventLoop ν} {s s' : State ν} {m : Move}
    (hstep : s.step? l m = some s') (hm : m ≠ .shutDown)
    (hs : s.phase = .draining → s.waiting = []) (hstopped : s'.phase = .draining) :
  s'.waiting = []
  := by
  cases made_of_step? hstep with
  | takeSpawning _ hrunning _ =>
    rw [hrunning] at hstopped
    contradiction
  | takeInPlace _ hrunning _ =>
    rw [State.dispatchInPlace_eq] at hstopped
    simp only [hrunning] at hstopped
    split_ifs at hstopped
  | complete _ _ => apply hs hstopped
  | close _ hwaiting => apply hwaiting
  | shutDown _ => contradiction

/-- After any moves but a shutdown, a loop that has stopped has taken all events. -/
theorem Steps.waiting_eq_nil {l : EventLoop ν} {s s' : State ν} {moves : List Move}
    (h : Steps l s moves s') (hmoves : .shutDown ∉ moves)
    (hs : s.phase = .draining → s.waiting = []) (hstopped : s'.phase = .draining) :
  s'.waiting = []
  := by
  induction h with
  | stay => apply hs hstopped
  | move hstep _ ih =>
    rw [List.mem_cons, not_or] at hmoves
    apply ih hmoves.2 _ hstopped
    apply waiting_eq_nil_of_step hstep (Ne.symm hmoves.1) hs

/-! ### Independence of the schedule -/

/-- What comes of an event does not depend on what happened before it. -/
def Steady (l : EventLoop ν) : Prop :=
  ∀ (past past' : List (Happening ν)) (e : Event),
    (l.handle past e).outcome = (l.handle past' e).outcome

/-- The counts of events that are each handled after the same past. -/
def tallyOf (l : EventLoop ν) (past : List (Happening ν)) (events : List Event) : Tally :=
  let outcomes := events.filterMap fun e => (l.handle past e).outcome
  ⟨events.length, outcomes.length, (outcomes.map Outcome.delivered).sum,
    (outcomes.map (·.failures.length)).sum⟩

/-- Where outcomes do not depend on what happened before, the outcomes of dispatches are those of
their events. -/
theorem Serial.filterMap_eq {l : EventLoop ν} (hsteady : l.Steady)
    {past happenings : List (Happening ν)} {done : List (Event × Option Outcome)}
    (h : Serial l past done happenings) :
  done.filterMap Prod.snd = (done.map Prod.fst).filterMap fun e => (l.handle past e).outcome
  := by
  induction h with
  | start => rfl
  | @dispatch done happenings _ e ih =>
    rw [List.filterMap_append, List.map_append, List.filterMap_append, ih]
    apply congrArg
    rw [List.map_singleton, List.filterMap_cons, List.filterMap_cons, hsteady happenings past e]
    rfl

/-- Once all events are taken and dispatched, the order in which they were does not show. -/
theorem Accounts.tally_eq {l : EventLoop ν} (hsteady : l.Steady) {events : List Event}
    {past : List (Happening ν)} {s : State ν} (h : Accounts l events past [] s)
    (hwaiting : s.waiting = []) :
  s.tally = l.tallyOf past events
  := by
  obtain ⟨taken, hevents, hreceived, hperm⟩ := h.taken
  rw [hwaiting, List.append_nil] at hevents
  obtain rfl := hevents
  rw [List.append_nil] at hperm
  have hcompleted : s.completed.Perm (taken.filterMap fun e => (l.handle past e).outcome) := by
    rw [State.completed, h.serial.filterMap_eq hsteady]
    apply hperm.filterMap
  have htally : s.tally = ⟨s.tally.received, s.tally.dispatched, s.tally.deliveries,
    s.tally.failures⟩ := rfl
  rw [htally, tallyOf, hreceived, h.dispatched, h.deliveries, h.failures, hcompleted.length_eq,
    (hcompleted.map _).sum_nat, (hcompleted.map _).sum_nat]

/-- If every dispatch has an outcome, there are as many outcomes as dispatches. -/
theorem State.length_completed {s : State ν} (h : ∀ d ∈ s.dispatched, d.2.isSome = true) :
  s.completed.length = s.dispatched.length
  := by
  rw [completed, List.length_filterMap_eq_countP, List.countP_eq_length]
  exact h

/-- A loop that has finished has stopped, and nothing is in flight. -/
theorem inFlight_eq_nil_of_isFinished {s : State ν} (h : s.isFinished = true) :
  s.phase = .draining ∧ s.inFlight = []
  := by
  rw [State.isFinished, Bool.and_eq_true, decide_eq_true_eq, List.isEmpty_iff] at h
  exact h

/-- A loop that hands events to a fanout, where one subscribed to the tag `A` and always fails. -/
def failing (spawning : Bool) (reporter : Failure → Reaction Unit) : EventLoop Unit where
  exchange :=
    ⟨[.fanout ((Fanout.named none).subscribe "A" fun _ =>
      .giving ⟨[], .failure (.saying "failed")⟩)], reporter⟩
  platform := ⟨fun _ _ => some .notConnected, fun _ _ => ⟨"", "", "", none, []⟩⟩
  spawning := spawning

/-- The error of this one says something. -/
theorem tells_failing (spawning : Bool) (reporter : Failure → Reaction Unit) :
  (failing spawning reporter).exchange.Tells (failing spawning reporter).platform
  := by
  intro tag payload t ht
  rw [failing, List.flatMap_singleton, Party.turns] at ht
  obtain ⟨s, hs, rfl⟩ := List.mem_map.mp ht
  have hmem := List.fst_mem_of_mem_zipIdx hs
  rw [Fanout.subscribersOf_subscribe] at hmem
  obtain hmem | hmem := List.mem_append.mp hmem
  · contradiction
  · rw [List.mem_ite_nil_right, List.mem_singleton] at hmem
    rintro happenings error hgoes
    rw [hmem.2] at hgoes
    obtain ⟨-, hending⟩ := Errand.goes_iff.mp hgoes
    obtain rfl := Ending.failure.inj hending
    exact ⟨"failed", rfl⟩

end EventLoop

end InteractionRouting
