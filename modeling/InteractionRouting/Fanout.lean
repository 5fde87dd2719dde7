import InteractionRouting.Outcome

/-!
# Fanouts

A fanout hands an event to everyone who subscribed to its tag, in the order in which they
subscribed.  One that fails does not keep the others from running, unless its error panics when it
is asked for what it says.
-/

namespace InteractionRouting

/-- Someone who subscribed to events: what is done when it is called with a payload. -/
abbrev Subscriber (ν : Type) := Json → Attempt ν (Errand ν)

/-- Subscribers by tag. -/
structure Fanout (ν : Type) where
  name : Option String
  subscribers : Table (List (Subscriber ν))

namespace Fanout

variable {ν : Type}

/-- A fanout nobody subscribed to. -/
def named (name : Option String) : Fanout ν := ⟨name, .empty⟩

/-- The name in reports. -/
def label (f : Fanout ν) : String := f.name.getD "muxer"

/-- The subscribers of a tag, in order. -/
def subscribersOf (f : Fanout ν) (tag : String) : List (Subscriber ν) :=
  (f.subscribers.get? tag).getD []

/-- Adds a subscriber to a tag. -/
def subscribe (f : Fanout ν) (tag : String) (s : Subscriber ν) : Fanout ν :=
  { f with subscribers := f.subscribers.insert tag (f.subscribersOf tag ++ [s]) }

/-- Adds subscribers to their tags, one after the other. -/
def subscribeAll (f : Fanout ν) (subscriptions : List (String × Subscriber ν)) : Fanout ν :=
  subscriptions.foldl (fun f s => f.subscribe s.1 s.2) f

/-- The tags somebody subscribed to. -/
def tags (f : Fanout ν) : List String := f.subscribers.keys

/-- Runs one subscriber, the `index`-th of its tag. -/
def deliverTo (f : Fanout ν) (tag : String) (payload : Json) (s : Subscriber ν) (index : Nat) :
    Delivery ν :=
  let errand := Errand.ofAttempt (s payload)
  .ofRun f.label tag s!"#{index}" errand.ending (errand.notes.map .note)

/-- Hands an event to its subscribers. -/
def dispatch (f : Fanout ν) (tag : String) (payload : Json) : Delivery ν :=
  ((f.subscribersOf tag).zipIdx.map fun s => f.deliverTo tag payload s.1 s.2).foldl
    (· ++ ·) .none

/-- Serves an event.  As a service a fanout has no failures of its own. -/
def serve (f : Fanout ν) (e : Event) : Except Empty (Delivery ν) := .ok (f.dispatch e.tag e.payload)

/-- Tags in the order of their characters. -/
def sortedTags (f : Fanout ν) : List String := f.tags.mergeSort fun a b => decide (a ≤ b)

def describe (f : Fanout ν) : String :=
  Text.shown "EventMuxer" [("name", Text.shownOption (f.name.map Text.quote)),
    ("tags", Text.quotedList f.sortedTags)]

end Fanout

end InteractionRouting
