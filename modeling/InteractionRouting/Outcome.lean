import InteractionRouting.Conduct

/-!
# Outcomes

What came of handing an event on: how many subscribers were run, and which of them failed.
-/

namespace InteractionRouting

/-- A subscriber that failed. -/
structure Failure where
  /-- Where the subscriber belongs to. -/
  target : String
  tag : String
  subscriber : String
  error : String
  panicked : Bool
deriving DecidableEq

def Failure.message (f : Failure) : String :=
  let what := if f.panicked then "panicked" else "failed"
  s!"subscriber {f.subscriber} of '{f.target}' {what} on {f.tag}: {f.error}"

/-- What came of one event. -/
structure Outcome where
  /-- The number of subscribers that were run. -/
  delivered : Nat
  failures : List Failure
deriving DecidableEq

namespace Outcome

/-- Nobody was there for the event. -/
def none : Outcome := ⟨0, []⟩

/-- Whether every subscriber that was run succeeded. -/
def isClean (o : Outcome) : Bool := o.failures.isEmpty

/-- Two outcomes, one after the other. -/
def append (a b : Outcome) : Outcome := ⟨a.delivered + b.delivered, a.failures ++ b.failures⟩

instance : Append Outcome := ⟨append⟩

/-- One subscriber was run. -/
def ofVerdict (target tag subscriber : String) (verdict : Verdict) : Outcome where
  delivered := 1
  failures := (verdict.fault?.map fun error =>
    ⟨target, tag, subscriber, error, verdict.panicked⟩).toList

/-- The event failed before anybody was run. -/
def refused (target tag subscriber error : String) : Outcome where
  delivered := 0
  failures := [⟨target, tag, subscriber, error, false⟩]

end Outcome

/-- What came of an event, and what happened meanwhile. -/
structure Delivery (ν : Type) where
  /-- What came of the event, unless a panic got out. -/
  outcome : Option Outcome
  /-- What happened, in order. -/
  happenings : List (Happening ν)

namespace Delivery

variable {ν : Type}

/-- Nobody was there for the event. -/
def none : Delivery ν := ⟨some .none, []⟩

/-- The event failed before anybody was run. -/
def refused (target tag subscriber error : String) : Delivery ν :=
  ⟨some (.refused target tag subscriber error), []⟩

/-- One subscriber was run in a guard. -/
def ofRun (target tag subscriber : String) (ending : Ending) (happenings : List (Happening ν)) :
    Delivery ν :=
  ⟨ending.guarded.toOption.map (.ofVerdict target tag subscriber), happenings⟩

/-- Two deliveries, one after the other.  When a panic gets out of the first there is no other. -/
def append (a b : Delivery ν) : Delivery ν :=
  match a.outcome with
  | .none => a
  | some o => ⟨b.outcome.map (o ++ ·), a.happenings ++ b.happenings⟩

instance : Append (Delivery ν) := ⟨append⟩

end Delivery

end InteractionRouting
