import InteractionRouting.Fanout
import InteractionRouting.Router

/-!
# Exchanges

An exchange hands every event to each of its parties, one after the other in the order in
which they were added.  When all of them have had the event, every failure is reported, in
order, unless the reporter panics.  A panic that gets out of a party, or of the reporter, is the end
of the event.
-/

namespace InteractionRouting

/-- One that events are handed to. -/
inductive Party (ν : Type) where
  | router (router : Router ν)
  | fanout (fanout : Fanout ν)

namespace Party

variable {ν : Type}

/-- The name in reports. -/
def label : Party ν → String
  | router r => r.name
  | fanout f => f.label

/-- Hands an event over, after the platform calls made before. -/
def dispatch (p : Platform) (past : List Call) (tag : String) (payload : Json) :
    Party ν → Delivery ν
  | router r => r.dispatch p past tag payload
  | fanout f => f.dispatch tag payload

end Party

/-- Parties that get events, and what is done about failures. -/
structure Exchange (ν : Type) where
  parties : List (Party ν)
  reporter : Failure → Reaction ν

namespace Exchange

variable {ν : Type}

/-- An exchange without parties that does nothing about failures. -/
def empty : Exchange ν := ⟨[], fun _ => ⟨[], .ok ()⟩⟩

/-- Adds a party after all others. -/
def add (x : Exchange ν) (party : Party ν) : Exchange ν :=
  { x with parties := x.parties ++ [party] }

/-- Adds parties, one after the other. -/
def addAll (x : Exchange ν) (parties : List (Party ν)) : Exchange ν := parties.foldl add x

/-- Hands an event to parties, one after the other, after the platform calls made before. -/
def deliver (p : Platform) (tag : String) (payload : Json) :
    List Call → List (Party ν) → Delivery ν
  | _, [] => .none
  | past, party :: rest =>
    let d := party.dispatch p past tag payload
    d ++ deliver p tag payload (past ++ Happening.calls d.happenings) rest

/-- Reports failures, one after the other, until the reporter panics. -/
def report (x : Exchange ν) : List Failure → Reaction ν
  | [] => ⟨[], .ok ()⟩
  | f :: rest =>
    let reaction := x.reporter f
    match reaction.result with
    | .error _ => reaction
    | .ok () =>
      let more := x.report rest
      ⟨reaction.notes ++ more.notes, more.result⟩

/-- Hands an event to all parties and reports the failures, after the platform calls made
before. -/
def dispatch (x : Exchange ν) (p : Platform) (past : List Call) (tag : String) (payload : Json) :
    Delivery ν :=
  let d := deliver p tag payload past x.parties
  match d.outcome with
  | none => d
  | some outcome =>
    let reported := x.report outcome.failures
    ⟨reported.result.toOption.map fun _ => outcome, d.happenings ++ reported.notes.map .note⟩

def describe (x : Exchange ν) : String :=
  Text.shown "DispatchRoot" [("targets", Text.quotedList (x.parties.map (·.label)))]

end Exchange

end InteractionRouting
