import InteractionRouting.Exchange

/-!
# The event loop

The loop takes events off a queue and dispatches each, in place or as a task of its own.
What it does next is a move: take an event, complete one of the tasks in flight, or stop,
because the queue is closed and empty or because it is shut down.  After it has stopped it
completes the tasks that are still in flight, in any order, and is finished.

`State.step?` says which moves there are and what they do.  `EventLoop.run` makes the moves
of one schedule, in which every task is completed before the next event is taken.
-/

namespace InteractionRouting

/-- What was counted while events were handled. -/
structure Tally where
  /-- Events that were taken off the queue. -/
  received : Nat
  /-- Dispatches that ran to their end. -/
  dispatched : Nat
  /-- Subscribers that were run in them. -/
  deliveries : Nat
  /-- Subscribers that failed in them. -/
  failures : Nat
deriving DecidableEq

namespace Tally

/-- Nothing was counted yet. -/
def zero : Tally := ⟨0, 0, 0, 0⟩

/-- Counts an event that was taken. -/
def receive (t : Tally) : Tally := { t with received := t.received + 1 }

/-- Counts a dispatch, if it ran to its end. -/
def record (t : Tally) : Option Outcome → Tally
  | some o =>
    { t with
      dispatched := t.dispatched + 1
      deliveries := t.deliveries + o.delivered
      failures := t.failures + o.failures.length }
  | none => t

end Tally

/-- What the loop is made of. -/
structure EventLoop (ν : Type) where
  exchange : Exchange ν
  platform : Platform
  /-- Whether each event is dispatched as a task of its own. -/
  spawning : Bool

namespace EventLoop

/-- What the loop is about to do. -/
inductive Phase where
  /-- It takes events. -/
  | running
  /-- It has stopped and completes the tasks in flight. -/
  | draining
  /-- It was torn down by a panic in its midst. -/
  | broken
deriving DecidableEq

/-- Where the loop stands. -/
structure State (ν : Type) where
  /-- The events that will come out of the queue, until it is closed. -/
  waiting : List Event
  /-- The events whose tasks are not completed. -/
  inFlight : List Event
  phase : Phase
  tally : Tally
  /-- The events that were dispatched, each with what came of it unless a panic got out. -/
  dispatched : List (Event × Option Outcome)
  /-- What happened, in order. -/
  happenings : List (Happening ν)

/-- What the loop can do. -/
inductive Move where
  /-- Take the next event. -/
  | take
  /-- Complete the task at a position. -/
  | complete (position : Nat)
  /-- Stop because the queue is closed and empty. -/
  | close
  /-- Stop at once. -/
  | shutDown
deriving DecidableEq

namespace State

variable {ν : Type}

/-- The loop before its first move, after what happened before. -/
def initial (events : List Event) (past : List (Happening ν)) : State ν :=
  ⟨events, [], .running, .zero, [], past⟩

/-- Whether the loop has stopped and all tasks are completed. -/
def isFinished (s : State ν) : Bool := s.phase = .draining && s.inFlight.isEmpty

/-- Dispatches an event. -/
def dispatch (l : EventLoop ν) (s : State ν) (e : Event) : State ν :=
  let d := l.exchange.dispatch l.platform (Happening.calls s.happenings) e.tag e.payload
  { s with
    tally := s.tally.record d.outcome
    dispatched := s.dispatched ++ [(e, d.outcome)]
    happenings := s.happenings ++ d.happenings }

/-- Dispatches an event in place: a panic that gets out tears down the loop. -/
def dispatchInPlace (l : EventLoop ν) (s : State ν) (e : Event) : State ν :=
  let d := l.exchange.dispatch l.platform (Happening.calls s.happenings) e.tag e.payload
  let after := s.dispatch l e
  if d.outcome.isNone then { after with phase := .broken } else after

/-- Makes a move, if the loop can. -/
def step? (l : EventLoop ν) (s : State ν) : Move → Option (State ν)
  | .take =>
    match s.phase, s.waiting with
    | .running, e :: rest =>
      let taken := { s with waiting := rest, tally := s.tally.receive }
      some (if l.spawning then { taken with inFlight := taken.inFlight ++ [e] }
        else taken.dispatchInPlace l e)
    | _, _ => none
  | .complete position =>
    match s.phase, s.inFlight[position]? with
    | .broken, _ => none
    | _, none => none
    | _, some e => some (dispatch l { s with inFlight := s.inFlight.eraseIdx position } e)
  | .close =>
    if s.phase = .running ∧ s.waiting = [] then some { s with phase := .draining } else none
  | .shutDown => if s.phase = .running then some { s with phase := .draining } else none

/-- Makes the moves of a schedule, passing over those the loop cannot make. -/
def follow (l : EventLoop ν) (s : State ν) (schedule : List Move) : State ν :=
  schedule.foldl (fun s m => (s.step? l m).getD s) s

end State

variable {ν : Type}

/-- The schedule in which every task is completed before the next event is taken. -/
def inOrder (events : List Event) : List Move :=
  events.flatMap (fun _ => [.take, .complete 0]) ++ [.close]

/-- Handles events in order until all are handled, after what happened before. -/
def run (l : EventLoop ν) (events : List Event) (past : List (Happening ν)) : State ν :=
  (State.initial events past).follow l (inOrder events)

/-- The loop that is shut down before it takes an event. -/
def runShutDown (l : EventLoop ν) (events : List Event) (past : List (Happening ν)) : State ν :=
  (State.initial events past).follow l [.shutDown]

end EventLoop

end InteractionRouting
