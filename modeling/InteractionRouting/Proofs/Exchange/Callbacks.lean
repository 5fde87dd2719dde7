import InteractionRouting.Exchange
import InteractionRouting.Proofs.Interaction.OneShot
import InteractionRouting.Proofs.Router.Invocation

/-!
# Callbacks in the course of an event

Whatever a handler does with the interaction it is given, and whatever the platform answers, it
sends the callback at most once.  Fanouts and reporters call no platform.  So in the course of an
event at most as many callbacks are sent as handlers are run for it.
-/

namespace InteractionRouting

variable {ν : Type}

/-- The number of callbacks that are sent. -/
def Happening.callbacks (l : List (Happening ν)) : Nat :=
  (Happening.calls l).countP (·.kind = .sendCallback)

namespace Happening

/-- The calls of the platform come one part after the other. -/
theorem calls_append (l l' : List (Happening ν)) :
  calls (l ++ l') = calls l ++ calls l'
  := List.filterMap_append

/-- The callbacks of two parts add up. -/
theorem callbacks_append (l l' : List (Happening ν)) :
  callbacks (l ++ l') = callbacks l + callbacks l'
  := by
  rw [callbacks, calls_append, List.countP_append]
  rfl

theorem calls_map_call (calls : List Call) :
  Happening.calls (calls.map (call : Call → Happening ν)) = calls
  := by
  rw [Happening.calls, List.filterMap_map]
  apply List.filterMap_some

/-- Notes are no calls. -/
theorem callbacks_map_note (notes : List ν) :
  callbacks (notes.map note) = 0
  := by
  have hnone : Happening.calls (notes.map note) = [] := by
    rw [Happening.calls, List.filterMap_map]
    apply List.filterMap_eq_nil_iff.mpr
    intro entry hentry
    rfl
  rw [callbacks, hnone, List.countP_nil]

end Happening

/-- What happens in two deliveries is what happens in the first, and then in the second unless a
panic got out of the first. -/
theorem Delivery.happenings_append (d d' : Delivery ν) :
  (d ++ d').happenings
    = d.happenings ++ if d.outcome.isSome then d'.happenings else []
  := by
  obtain ⟨outcome, happenings⟩ := d
  cases outcome with
  | none => exact (List.append_nil happenings).symm
  | some o => rfl

/-- Whatever work a handler does, the progress of its interaction reflects the calls made for it. -/
theorem Work.reflects_run (p : Platform) (past : List Call) (work : Work ν) {calls : List Call}
    {i : Interaction} (h : Interaction.Reflects i calls) :
  Interaction.Reflects (work.run p past i).interaction
    (calls ++ Happening.calls (work.run p past i).happenings)
  := by
  induction work generalizing past calls i with
  | finish ending =>
    rw [run, Happening.calls, List.filterMap_nil, List.append_nil]
    apply h
  | note entry next ih => apply ih past h
  | perform op next ih =>
    rw [run]
    dsimp only
    rw [Happening.calls_append, Happening.calls_map_call, ← List.append_assoc]
    apply ih
    apply h.perform

/-- A handler sends the callback of its interaction at most once. -/
theorem Conduct.callbacks_run_le_one (p : Platform) (past : List Call) (id token : String)
    (origin : Origin) (conduct : Conduct ν) :
  Happening.callbacks (conduct.run p past (.fresh id token origin)).happenings ≤ 1
  := by
  obtain ⟨called, given⟩ := conduct
  cases given with
  | error panic =>
    rw [run, Happening.callbacks_map_note]
    apply Nat.zero_le
  | ok work =>
    have hreflects := work.reflects_run p past (Interaction.reflects_fresh id token origin)
    rw [List.nil_append] at hreflects
    rw [run]
    dsimp only
    rw [Happening.callbacks_append, Happening.callbacks_map_note, Nat.zero_add]
    apply hreflects.callbackFirst.countP_le_one

/-- A router sends at most as many callbacks as it runs handlers. -/
theorem Router.callbacks_dispatch_le (r : Router ν) (p : Platform) (past : List Call)
    (tag : String) (payload : Json) :
  Happening.callbacks (r.dispatch p past tag payload).happenings
    ≤ (r.invocations tag payload).length
  := by
  cases hinvocations : r.invocations tag payload with
  | nil =>
    rw [happenings_dispatch_of_invocations_eq_nil hinvocations]
    apply Nat.le_refl
  | cons i rest =>
    have hlength := (r.decision tag payload).length_invocations_le_one
    rw [← invocations, hinvocations, List.length_cons] at hlength
    obtain rfl : rest = [] := List.eq_nil_of_length_eq_zero (by omega)
    have hmem : i ∈ (r.decision tag payload).invocations := by
      rw [← invocations, hinvocations]
      apply List.mem_singleton_self
    obtain ⟨id, token, origin, hfresh⟩ := r.isFresh_decision tag payload i hmem
    rw [dispatch_of_invocations_eq hinvocations, Invocation.deliver, hfresh]
    apply Conduct.callbacks_run_le_one

/-- All that happens in a fanout is that notes are left. -/
theorem Fanout.exists_notes_dispatch (f : Fanout ν) (tag : String) (payload : Json) :
  ∃ notes : List ν, (f.dispatch tag payload).happenings = notes.map .note
  := by
  have hfoldl (l : List (Subscriber ν × Nat)) (d : Delivery ν) (noted : List ν)
      (hd : d.happenings = noted.map .note) : ∃ notes : List ν,
      ((l.map fun s => f.deliverTo tag payload s.1 s.2).foldl (· ++ ·) d).happenings
        = notes.map .note := by
    induction l generalizing d noted with
    | nil => exact ⟨noted, hd⟩
    | cons s l ih =>
      rw [List.map_cons, List.foldl_cons]
      cases houtcome : d.outcome with
      | none =>
        apply ih _ noted
        rw [Delivery.happenings_append, houtcome, hd]
        apply List.append_nil
      | some o =>
        apply ih _ (noted ++ (Errand.ofAttempt (s.1 payload)).notes)
        rw [Delivery.happenings_append, houtcome, hd, List.map_append]
        rfl
  apply hfoldl _ _ [] rfl

/-- The runs of handlers of interactions for an event: those of a router.  Subscribers of a fanout
get no interaction. -/
def Party.invocations (tag : String) (payload : Json) : Party ν → List (Router.Invocation ν)
  | router r => r.invocations tag payload
  | fanout _ => []

namespace Exchange

/-- After all parties have had an event nothing happens but that the reporter leaves notes. -/
theorem exists_notes_dispatch (x : Exchange ν) (p : Platform) (past : List Call) (tag : String)
    (payload : Json) :
  ∃ notes : List ν, (x.dispatch p past tag payload).happenings
    = (deliver p tag payload past x.parties).happenings ++ notes.map .note
  := by
  rw [dispatch]
  dsimp only
  split
  · exact ⟨[], (List.append_nil _).symm⟩
  · next outcome _ => exact ⟨(x.report outcome.failures).notes, rfl⟩

/-- In the course of an event at most as many callbacks are sent as handlers are run. -/
theorem callbacks_deliver_le (p : Platform) (tag : String) (payload : Json) (past : List Call)
    (parties : List (Party ν)) :
  Happening.callbacks (deliver p tag payload past parties).happenings
    ≤ (parties.flatMap (·.invocations tag payload)).length
  := by
  induction parties generalizing past with
  | nil => apply Nat.le_refl
  | cons party rest ih =>
    have hparty : Happening.callbacks (party.dispatch p past tag payload).happenings
        ≤ (party.invocations tag payload).length := by
      cases party with
      | router r => apply r.callbacks_dispatch_le
      | fanout f =>
        obtain ⟨notes, hnotes⟩ := f.exists_notes_dispatch tag payload
        rw [Party.dispatch, hnotes, Happening.callbacks_map_note]
        apply Nat.zero_le
    rw [List.flatMap_cons, List.length_append, deliver, Delivery.happenings_append,
      Happening.callbacks_append]
    apply Nat.add_le_add hparty
    split_ifs
    · apply ih
    · apply Nat.zero_le

/-- An event is answered at most as often as handlers are run on it. -/
theorem callbacks_dispatch_le (x : Exchange ν) (p : Platform) (past : List Call) (tag : String)
    (payload : Json) :
  Happening.callbacks (x.dispatch p past tag payload).happenings
    ≤ (x.parties.flatMap (·.invocations tag payload)).length
  := by
  obtain ⟨notes, hnotes⟩ := x.exists_notes_dispatch p past tag payload
  rw [hnotes, Happening.callbacks_append, Happening.callbacks_map_note, Nat.add_zero]
  apply callbacks_deliver_le

end Exchange

end InteractionRouting
