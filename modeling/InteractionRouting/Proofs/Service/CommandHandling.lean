import InteractionRouting.Proofs.Exchange.Callbacks
import InteractionRouting.Proofs.Service.Assembly

/-!
# A command is handled once

The routers of a service have no command in common, and an envelope means at most one command of
a router.  So for the event of a command at most one handler is run, wherever it is, and as it
answers its interaction at most once, at most one callback is sent for the event.
-/

namespace InteractionRouting

variable {ν : Type}

/-- Where at most one of the lists is not empty, and none has two elements, there is at most one
element altogether. -/
theorem length_flatMap_le_one {α β : Type} {f : α → List β} {l : List α}
    (hlength : ∀ a ∈ l, (f a).length ≤ 1) (h : l.Pairwise fun a b => f a = [] ∨ f b = []) :
  (l.flatMap f).length ≤ 1
  := by
  induction l with
  | nil => exact Nat.zero_le 1
  | cons a rest ih =>
    obtain ⟨hfirst, hrest⟩ := List.pairwise_cons.mp h
    rw [List.flatMap_cons, List.length_append]
    by_cases hnil : f a = []
    · have := ih (fun b hb => hlength b (List.mem_cons_of_mem a hb)) hrest
      rw [hnil, List.length_nil, Nat.zero_add]
      apply this
    · have hothers : rest.flatMap f = [] := by
        rw [List.flatMap_eq_nil_iff]
        intro b hb
        apply (hfirst b hb).resolve_left hnil
      rw [hothers, List.length_nil, Nat.add_zero]
      apply hlength a List.mem_cons_self

/-- The handlers that are run among all parties are those that are run by the routers. -/
theorem Exchange.flatMap_invocations (parties : List (Party ν)) (tag : String) (payload : Json) :
  parties.flatMap (·.invocations tag payload)
    = (parties.filterMap Party.router?).flatMap (·.invocations tag payload)
  := by
  induction parties with
  | nil => rfl
  | cons party rest ih =>
    cases party with
    | router r =>
      rw [List.flatMap_cons, ih]
      rfl
    | fanout f =>
      rw [List.flatMap_cons, ih]
      rfl

/-- A router in which an envelope means no command lets the event pass. -/
theorem Router.decision_command_eq_pass {r : Router ν} {payload : Json} {e : CommandEnvelope}
    (hread : CommandEnvelope.codec.decode .direct payload = .ok e)
    (hfind : r.catalogue.find? e = none) :
  r.decision Event.commandTag payload = .pass
  := by
  rw [decision_command hread, decideCommand, hfind]

namespace Service

/-- An envelope means a command in at most one of the routers. -/
theorem Assembled.pairwise_find? {s : Service ν} (h : s.Assembled) (e : CommandEnvelope) :
  s.routers.Pairwise fun r r' => r.catalogue.find? e = none ∨ r'.catalogue.find? e = none
  := by
  have hnodup := h.nodup
  rw [commands, List.map_flatMap, List.nodup_flatMap] at hnodup
  apply hnodup.2.imp
  intro r r' hdisjoint
  cases hfind : r.catalogue.find? e with
  | none =>
    left
    rfl
  | some d =>
    right
    rw [Option.eq_none_iff_forall_ne_some]
    intro d' hfind'
    obtain ⟨hd, hnamed⟩ := Catalogue.find?_eq_some_iff.mp hfind
    obtain ⟨hd', hnamed'⟩ := Catalogue.find?_eq_some_iff.mp hfind'
    apply hdisjoint (List.mem_map_of_mem hd)
    rw [hnamed.key_eq, ← hnamed'.key_eq]
    apply List.mem_map_of_mem hd'

/-- However a service was put together, and whichever routers were refused: for the event of a
command at most one handler of a command is run among all parties.  The outcome of a router counts
the handlers that it runs; where a panic gets out there is no outcome, and one handler.  If the
payload reads, all routers but one let the event pass.  Whatever the handler does with its
interaction and whatever the platform answers, at most one callback is sent in the course of the
event. -/
theorem command_handled_once {config : Config} {p : Platform} {registrar : Option Registrar}
    {opened : Service ν} (h : open? config p registrar = some opened)
    (changes : List (Change ν)) (past : List Call) (payload : Json) :
  let s := opened.assemble changes
  let d := s.exchange.dispatch s.platform past Event.commandTag payload
  (s.exchange.parties.flatMap (·.invocations Event.commandTag payload)).length ≤ 1
    ∧ (∀ r ∈ s.routers, ∀ before : List Call,
        (r.dispatch s.platform before Event.commandTag payload).outcome.elim 1 Outcome.delivered
          = (r.invocations Event.commandTag payload).length)
    ∧ (∀ e, CommandEnvelope.codec.decode .direct payload = .ok e →
        s.routers.Pairwise fun r r' => ∀ before before' : List Call,
          (r.dispatch s.platform before Event.commandTag payload).outcome = some .none
            ∨ (r'.dispatch s.platform before' Event.commandTag payload).outcome = some .none)
    ∧ Happening.callbacks d.happenings ≤ 1
  := by
  intro s d
  have hs : s.Assembled := (assembled_open h).assemble changes
  have hpass : ∀ e, CommandEnvelope.codec.decode .direct payload = .ok e →
      s.routers.Pairwise fun r r' => r.decision Event.commandTag payload = .pass
        ∨ r'.decision Event.commandTag payload = .pass := by
    intro e hread
    apply (hs.pairwise_find? e).imp
    intro r r' hnone
    apply hnone.imp (Router.decision_command_eq_pass hread) (Router.decision_command_eq_pass hread)
  have hruns :
      (s.exchange.parties.flatMap (·.invocations Event.commandTag payload)).length ≤ 1 := by
    rw [Exchange.flatMap_invocations, hs.parties]
    cases hread : CommandEnvelope.codec.decode .direct payload with
    | error m =>
      have hnil : s.routers.flatMap (·.invocations Event.commandTag payload) = [] := by
        rw [List.flatMap_eq_nil_iff]
        intro r hr
        apply Router.invocations_command_of_error hread
      rw [hnil]
      apply Nat.zero_le
    | ok e =>
      apply length_flatMap_le_one
      · intro r hr
        apply Router.Decision.length_invocations_le_one
      · apply (hpass e hread).imp
        intro r r' hdecision
        apply hdecision.imp Router.invocations_of_pass Router.invocations_of_pass
  refine ⟨hruns, fun r hr before => r.delivered_dispatch _ before _ _, ?_, ?_⟩
  · intro e hread
    apply (hpass e hread).imp
    intro r r' hdecision before before'
    apply hdecision.imp
    · intro hdecision
      rw [Router.dispatch_of_pass hdecision, Delivery.none]
    · intro hdecision
      rw [Router.dispatch_of_pass hdecision, Delivery.none]
  · apply Nat.le_trans (s.exchange.callbacks_dispatch_le s.platform past _ payload) hruns

/-- Two routers with a command, between them one that is refused because it has the first of
them, too, and a fanout that gets the same event.  The handler tries to answer twice. -/
theorem command_handled_once_answering_twice :
  let answer : Conduct Unit := .giving <| .perform (.ackWithDeferredMessage none) fun _ _ =>
    .perform (.ackWithDeferredMessage none) fun _ _ => .finish .success
  let command (name : String) : Command (CommandInput → Conduct Unit) :=
    ⟨name, "", .chat, none, .empty, fun _ => answer⟩
  let router (name : String) (commands : List (Command (CommandInput → Conduct Unit))) :
      Router Unit := { Router.named name with catalogue := Catalogue.empty.addAll commands }
  let changes := [Change.router (router "a" [command "ping"]),
    .router (router "b" [command "pong", command "ping"]),
    .fanout ((Fanout.named none).subscribe Event.commandTag fun _ => .giving ⟨[], .success⟩),
    .router (router "c" [command "pong"])]
  let payload := Json.object [("id", .string "1"), ("token", .string "t"),
    ("channelId", .string "c"), ("name", .string "ping")]
  ∃ opened : Service Unit, open? .standard obliging none = some opened
    ∧ let s := opened.assemble changes
      let d := s.exchange.dispatch s.platform [] Event.commandTag payload
      s.routers.map (·.name) = ["a", "c"]
        ∧ (s.exchange.parties.flatMap (·.invocations Event.commandTag payload)).length ≤ 1
        ∧ d.outcome = some ⟨2, []⟩
        ∧ Happening.callbacks d.happenings ≤ 1
        ∧ (Happening.calls d.happenings).length = 1
  := by
  intro answer command router changes payload
  obtain ⟨opened, hopen⟩ : ∃ opened : Service Unit, open? .standard obliging none = some opened :=
    ⟨_, rfl⟩
  use opened, hopen
  obtain ⟨hruns, -, -, hcallbacks⟩ := command_handled_once hopen changes [] payload
  obtain rfl := Option.some.inj hopen
  exact ⟨rfl, hruns, rfl, hcallbacks, rfl⟩

end Service

end InteractionRouting
