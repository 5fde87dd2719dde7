import InteractionRouting.Proofs.EventLoop.Accounting

/-!
# Failures are kept apart

On an event everyone has a turn whose turn it is: target by target those who subscribed to its tag,
in the order in which they did, and the handler that a router runs.  Whatever becomes of one turn,
the next is taken, unless an error panics when it is asked for what it says.  What comes of the
event is what comes of the turns, one after the other, and then the reports of those that failed.
-/

namespace InteractionRouting

variable {ν : Type}

/-- Someone called on the events of a tag. -/
structure Subscription (ν : Type) where
  tag : String
  call : Subscriber ν

/-- A fanout to which subscriptions were made, one after the other. -/
def Fanout.ofSubscriptions (name : Option String) (subscriptions : List (Subscription ν)) :
    Fanout ν :=
  (named name).subscribeAll (subscriptions.map fun s => (s.tag, s.call))

/-- What events are handed to: a router, or a fanout to which subscriptions were made in order. -/
inductive Recipient (ν : Type) where
  | router (router : Router ν)
  | fanout (name : Option String) (subscriptions : List (Subscription ν))

namespace Recipient

/-- The party that is added to an exchange. -/
def party : Recipient ν → Party ν
  | router r => .router r
  | fanout name subscriptions => .fanout (.ofSubscriptions name subscriptions)

/-- Those whose turn it is on an event: of a fanout everyone who subscribed to the tag, in the order
in which they subscribed, and of a router the one that it decides on. -/
def turns (tag : String) (payload : Json) : Recipient ν → List (Turn ν)
  | router r => (r.decision tag payload).turns r.name
  | fanout name subscriptions =>
    ((subscriptions.filter (·.tag = tag)).map Subscription.call).zipIdx.map fun s =>
      .subscriber (name.getD "muxer") s.2 s.1

end Recipient

namespace Fanout

/-- However subscriptions to other tags stand between them, the subscribers of a tag are those
that subscribed to it, in their order. -/
theorem subscribersOf_subscribeAll (f : Fanout ν) (tag : String)
    (subscriptions : List (String × Subscriber ν)) :
  (f.subscribeAll subscriptions).subscribersOf tag
    = f.subscribersOf tag ++ (subscriptions.filter (·.1 = tag)).map Prod.snd
  := by
  induction subscriptions generalizing f with
  | nil => exact (List.append_nil _).symm
  | cons s rest ih =>
    have hcons : f.subscribeAll (s :: rest) = (f.subscribe s.1 s.2).subscribeAll rest := rfl
    rw [hcons, ih, subscribersOf_subscribe, List.append_assoc]
    by_cases htag : s.1 = tag
    · rw [if_pos htag, List.filter_cons_of_pos (by simpa using htag)]
      rfl
    · rw [if_neg htag, List.filter_cons_of_neg (by simpa using htag)]
      rfl

theorem name_subscribeAll (f : Fanout ν) (subscriptions : List (String × Subscriber ν)) :
  (f.subscribeAll subscriptions).name = f.name
  := by
  induction subscriptions generalizing f with
  | nil => rfl
  | cons s rest ih => apply ih (f.subscribe s.1 s.2)

/-- The subscribers of a tag are those that subscribed to it, in order. -/
theorem subscribersOf_ofSubscriptions (name : Option String)
    (subscriptions : List (Subscription ν)) (tag : String) :
  (ofSubscriptions name subscriptions).subscribersOf tag
    = (subscriptions.filter (·.tag = tag)).map Subscription.call
  := by
  rw [ofSubscriptions, subscribersOf_subscribeAll, List.filter_map, List.map_map]
  rfl

/-- A fanout without a name is reported under that of its kind. -/
theorem label_ofSubscriptions (name : Option String) (subscriptions : List (Subscription ν)) :
  (ofSubscriptions name subscriptions).label = name.getD "muxer"
  := by
  rw [label, ofSubscriptions, name_subscribeAll]
  rfl

end Fanout

/-- However many tags were subscribed to, and in whatever order, those whose turn it is are those
who subscribed to the tag. -/
theorem Recipient.turns_party (r : Recipient ν) (tag : String) (payload : Json) :
  r.party.turns tag payload = r.turns tag payload
  := by
  cases r with
  | router r => rfl
  | fanout name subscriptions =>
    rw [party, Party.turns, Fanout.subscribersOf_ofSubscriptions, Fanout.label_ofSubscriptions]
    rfl

namespace Exchange

/-- Parties that are added come after those that are there, in order. -/
theorem addAll_eq (x : Exchange ν) (parties : List (Party ν)) :
  x.addAll parties = { x with parties := x.parties ++ parties }
  := by
  induction parties generalizing x with
  | nil => rw [List.append_nil, addAll, List.foldl_nil]
  | cons party rest ih =>
    rw [addAll, List.foldl_cons, ← addAll, ih, add, List.append_assoc, List.singleton_append]

/-- A reporter that never panics is told of every failure once, in order. -/
theorem report_of_calm {x : Exchange ν} (h : x.Calm) (failures : List Failure) :
  x.report failures = ⟨failures.flatMap fun f => (x.reporter f).notes, .ok ()⟩
  := by
  induction failures with
  | nil => rfl
  | cons f rest ih =>
    rw [report, h f]
    dsimp only
    rw [ih]
    rfl

end Exchange

end InteractionRouting
