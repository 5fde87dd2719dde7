import InteractionRouting.Proofs.EventLoop.Accounting
import InteractionRouting.Proofs.Exchange.Callbacks

/-!
# Handling events registers nothing

Of all that happens while events are handled, nothing is handed to a registrar, whatever the
handlers do and in whatever order the events are dispatched.
-/

namespace InteractionRouting

variable {ν : Type}

namespace Happening

/-- The manifests that were handed over come one part after the other. -/
theorem manifests_append (l l' : List (Happening ν)) :
  manifests (l ++ l') = manifests l ++ manifests l'
  := List.filterMap_append

/-- Calls of the platform hand over no manifest. -/
theorem manifests_map_call (calls : List Call) :
  manifests (calls.map (call : Call → Happening ν)) = []
  := by
  rw [manifests, List.filterMap_map, List.filterMap_eq_nil_iff]
  intro c hc
  rfl

theorem manifests_map_note (notes : List ν) :
  manifests (notes.map note) = []
  := by
  rw [manifests, List.filterMap_map, List.filterMap_eq_nil_iff]
  intro entry hentry
  rfl

/-- What is handed over are the manifests that are registered. -/
theorem manifests_map_registration (handed : List Manifest) :
  manifests (handed.map (registration : Manifest → Happening ν)) = handed
  := by
  rw [manifests, List.filterMap_map]
  apply List.filterMap_some

end Happening

/-- The work of a handler hands over no manifest. -/
theorem Work.manifests_run (p : Platform) (past : List Call) (i : Interaction) (work : Work ν) :
  Happening.manifests (work.run p past i).happenings = []
  := by
  induction work generalizing past i with
  | finish ending => rfl
  | note entry next ih => apply ih
  | perform op next ih =>
    rw [run]
    dsimp only
    rw [Happening.manifests_append, Happening.manifests_map_call, List.nil_append]
    apply ih

/-- Whatever a handler does, it hands nothing to the registrar. -/
theorem Conduct.manifests_run (p : Platform) (past : List Call) (i : Interaction)
    (conduct : Conduct ν) :
  Happening.manifests (conduct.run p past i).happenings = []
  := by
  obtain ⟨called, given⟩ := conduct
  cases given with
  | error panic => apply Happening.manifests_map_note
  | ok work =>
    rw [run]
    dsimp only
    rw [Happening.manifests_append, Happening.manifests_map_note, work.manifests_run,
      List.append_nil]

/-- A router hands over no manifest. -/
theorem Router.manifests_dispatch (r : Router ν) (p : Platform) (past : List Call) (tag : String)
    (payload : Json) :
  Happening.manifests (r.dispatch p past tag payload).happenings = []
  := by
  rw [dispatch]
  cases r.decision tag payload with
  | pass => rfl
  | refuse subscriber error => rfl
  | run subscriber interaction conduct => apply conduct.manifests_run

namespace Exchange

/-- Parties that are handed an event hand over no manifest. -/
theorem manifests_deliver (p : Platform) (tag : String) (payload : Json) (past : List Call)
    (parties : List (Party ν)) :
  Happening.manifests (deliver p tag payload past parties).happenings = []
  := by
  induction parties generalizing past with
  | nil => rfl
  | cons party rest ih =>
    have hparty : Happening.manifests (party.dispatch p past tag payload).happenings = [] := by
      cases party with
      | router r => apply r.manifests_dispatch
      | fanout f =>
        obtain ⟨notes, hnotes⟩ := f.exists_notes_dispatch tag payload
        rw [Party.dispatch, hnotes, Happening.manifests_map_note]
    rw [deliver, Delivery.happenings_append, Happening.manifests_append, hparty, List.nil_append]
    split_ifs
    · apply ih
    · rfl

/-- An event that is dispatched hands over no manifest. -/
theorem manifests_dispatch (x : Exchange ν) (p : Platform) (past : List Call) (tag : String)
    (payload : Json) :
  Happening.manifests (x.dispatch p past tag payload).happenings = []
  := by
  obtain ⟨notes, hnotes⟩ := x.exists_notes_dispatch p past tag payload
  rw [hnotes, Happening.manifests_append, manifests_deliver, Happening.manifests_map_note,
    List.append_nil]

end Exchange

/-- Whatever events are dispatched, nothing is handed to the registrar. -/
theorem EventLoop.Serial.manifests_eq {l : EventLoop ν} {past happenings : List (Happening ν)}
    {done : List (Event × Option Outcome)} (h : Serial l past done happenings) :
  Happening.manifests happenings = Happening.manifests past
  := by
  induction h with
  | start => rfl
  | dispatch _ e ih =>
    rw [Happening.manifests_append, ih, handle, Exchange.manifests_dispatch, List.append_nil]

/-- The books are in order whatever moves the loop makes, those that it cannot make being passed
over. -/
theorem EventLoop.sound_follow {l : EventLoop ν} {events : List Event} {past : List (Happening ν)}
    {s : State ν} (h : Sound l events past s) (schedule : List Move) :
  Sound l events past (s.follow l schedule)
  := by
  induction schedule generalizing s with
  | nil => apply h
  | cons m schedule ih =>
    rw [State.follow, List.foldl_cons]
    apply ih
    cases hstep : s.step? l m with
    | none => apply h
    | some s' => apply h.step hstep

end InteractionRouting
