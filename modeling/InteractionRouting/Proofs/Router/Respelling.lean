import InteractionRouting.Proofs.Envelope.Respelling
import InteractionRouting.Proofs.Router.Outcomes

/-!
# Routing and the spelling of payloads

A router reads nothing of a payload but the envelope.  So two spellings of a payload either are both
malformed, or they come to the same: the same handler is handed the same input, or no handler is
run, and in what is reported there is no difference but that handlers may end in different ways.
-/

namespace InteractionRouting

open Wire

/-- The second payload is another spelling of the first, for events of a tag. -/
inductive Event.Respelled : String → Json → Json → Prop
  | command {p q : Json} (h : CommandEnvelope.shape.Respells p q) : Respelled commandTag p q
  | component {p q : Json} (h : ComponentEnvelope.shape.Respells p q) : Respelled componentTag p q
  | modal {p q : Json} (h : ModalEnvelope.shape.Respells p q) : Respelled modalTag p q

namespace Router

variable {ν : Type}

/-! ### What handlers are handed -/

/-- A handler together with what it is handed: to that of a command the envelope, the target and the
arguments, to others the envelope and what is bound in the identifier. -/
inductive Handover (ν : Type) where
  | command (command : Command (CommandInput → Conduct ν)) (input : CommandInput)
  | component (handler : ComponentInput → Conduct ν) (input : ComponentInput)
  | modal (handler : ModalInput → Conduct ν) (input : ModalInput)

/-- The run of a handler for what it is handed. -/
def Handover.invocation : Handover ν → Invocation ν
  | command c input =>
    ⟨s!"command:{c.path}", .fresh input.envelope.id input.envelope.token .command, c.handler input⟩
  | component handler input =>
    ⟨s!"{(RouteKind.ofComponent input.envelope.kind).mark}:{input.identifier.name}",
      .fresh input.envelope.id input.envelope.token .component, handler input⟩
  | modal handler input =>
    ⟨s!"{RouteKind.modal.mark}:{input.identifier.name}",
      .fresh input.envelope.id input.envelope.token .modal, handler input⟩

def handoverCommand? (r : Router ν) (e : CommandEnvelope) : Option (Handover ν) := do
  let c ← r.catalogue.find? e
  let arguments ← (Arguments.resolve c.signature e).toOption
  let target ← e.target.toOption
  return .command c ⟨e, target, arguments⟩

def handoverComponent? (r : Router ν) (e : ComponentEnvelope) : Option (Handover ν) := do
  let identifier ← (Identifier.read e.customId).toOption
  let handler ← (r.componentRoutes e.kind).get? identifier.name
  return .component handler ⟨e, identifier⟩

def handoverModal? (r : Router ν) (e : ModalEnvelope) : Option (Handover ν) := do
  let identifier ← (Identifier.read e.customId).toOption
  let handler ← r.modals.get? identifier.name
  return .modal handler ⟨e, identifier⟩

/-- The handler that is run for an event, if one is, with what it is handed. -/
def handover? (r : Router ν) (tag : String) (payload : Json) : Option (Handover ν) :=
  if tag = Event.commandTag then
    (CommandEnvelope.codec.decode .direct payload).toOption.bind r.handoverCommand?
  else if tag = Event.componentTag then
    (ComponentEnvelope.codec.decode .direct payload).toOption.bind r.handoverComponent?
  else if tag = Event.modalTag then
    (ModalEnvelope.codec.decode .direct payload).toOption.bind r.handoverModal?
  else none

/-- The handler that a command runs is the one that it is handed over to. -/
theorem invocations_decideCommand (r : Router ν) (e : CommandEnvelope) :
  (r.decideCommand e).invocations = ((r.handoverCommand? e).map Handover.invocation).toList
  := by
  rw [decideCommand, handoverCommand?]
  cases r.catalogue.find? e with
  | none => rfl
  | some c =>
    cases harguments : Arguments.resolve c.signature e with
    | error error => simp [harguments, Except.toOption, Decision.invocations]
    | ok arguments =>
      cases e.target with
      | error error => simp [harguments, Except.toOption, Decision.invocations]
      | ok target =>
        simp [harguments, Except.toOption, Decision.invocations, Handover.invocation]

/-- The handler that a component runs is the one that it is handed over to. -/
theorem invocations_decideComponent (r : Router ν) (e : ComponentEnvelope) :
  (r.decideComponent e).invocations = ((r.handoverComponent? e).map Handover.invocation).toList
  := by
  rw [decideComponent, handoverComponent?]
  cases Identifier.read e.customId with
  | error error => rfl
  | ok identifier =>
    dsimp only
    cases hroute : (r.componentRoutes e.kind).get? identifier.name with
    | none => simp [Except.toOption, hroute, Decision.invocations]
    | some handler => simp [Except.toOption, hroute, Decision.invocations, Handover.invocation]

/-- The handler that a form runs is the one that it is handed over to. -/
theorem invocations_decideModal (r : Router ν) (e : ModalEnvelope) :
  (r.decideModal e).invocations = ((r.handoverModal? e).map Handover.invocation).toList
  := by
  rw [decideModal, handoverModal?]
  cases Identifier.read e.customId with
  | error error => rfl
  | ok identifier =>
    dsimp only
    cases hroute : r.modals.get? identifier.name with
    | none => simp [Except.toOption, hroute, Decision.invocations]
    | some handler => simp [Except.toOption, hroute, Decision.invocations, Handover.invocation]

/-- The handlers that are run are those that something is handed to, each for what it is handed. -/
theorem invocations_eq (r : Router ν) (tag : String) (payload : Json) :
  r.invocations tag payload = ((r.handover? tag payload).map Handover.invocation).toList
  := by
  rw [invocations, decision, handover?]
  split_ifs with hcommand hcomponent hmodal
  · rw [readPayload]
    cases CommandEnvelope.codec.decode .direct payload with
    | error m => rfl
    | ok e => exact r.invocations_decideCommand e
  · rw [readPayload]
    cases ComponentEnvelope.codec.decode .direct payload with
    | error m => rfl
    | ok e => exact r.invocations_decideComponent e
  · rw [readPayload]
    cases ModalEnvelope.codec.decode .direct payload with
    | error m => rfl
    | ok e => exact r.invocations_decideModal e
  · rfl

/-! ### Payloads that do not read -/

/-- A payload is malformed: all that comes of it is one failure that says so, and no handler is
run. -/
def Malformed (r : Router ν) (tag : String) (payload : Json) : Prop :=
  r.invocations tag payload = []
    ∧ ∃ (subscriber : String) (m : Mismatch), ∀ (platform : Platform) (past : List Call),
        r.dispatch platform past tag payload
          = ⟨some (.refused r.name tag subscriber s!"malformed payload: {m.message}"), []⟩

variable {r : Router ν} {tag : String} {p q : Json}

/-- An event is malformed if it is refused with such a text. -/
theorem malformed_of_decision (subscriber : String) (m : Mismatch)
    (h : r.decision tag p = .refuse subscriber s!"malformed payload: {m.message}") :
  r.Malformed tag p
  := by
  constructor
  · rw [invocations, h]
    rfl
  · use subscriber, m
    intro platform past
    rw [dispatch, h]
    rfl

/-- A command that is not read is malformed. -/
theorem malformed_command {m : Mismatch} (h : CommandEnvelope.codec.decode .direct p = .error m) :
  r.Malformed Event.commandTag p
  := by
  apply malformed_of_decision "command" m
  rw [decision, if_pos rfl, readPayload, h]
  rfl

/-- A component that is not read is malformed. -/
theorem malformed_component {m : Mismatch}
    (h : ComponentEnvelope.codec.decode .direct p = .error m) :
  r.Malformed Event.componentTag p
  := by
  apply malformed_of_decision "component" m
  rw [decision, if_neg (by decide), if_pos rfl, readPayload, h]
  rfl

/-- A form that is not read is malformed. -/
theorem malformed_modal {m : Mismatch} (h : ModalEnvelope.codec.decode .direct p = .error m) :
  r.Malformed Event.modalTag p
  := by
  apply malformed_of_decision "modal" m
  rw [decision, if_neg (by decide), if_neg (by decide), if_pos rfl, readPayload, h]
  rfl

/-- If what becomes of an event is decided by what a codec reads of its payload, then two payloads
of which the codec reads the same, or nothing, come to the same or are malformed. -/
theorem malformed_or_decision_eq {α : Type} {c : Codec α} {decideRead : α → Decision ν}
    (herror : ∀ {payload m}, c.decode .direct payload = .error m → r.Malformed tag payload)
    (hok : ∀ {payload a}, c.decode .direct payload = .ok a →
      r.decision tag payload = decideRead a)
    (h : (c.decode .direct p).toOption = (c.decode .direct q).toOption) :
  r.Malformed tag p ∧ r.Malformed tag q ∨ r.decision tag p = r.decision tag q
  := by
  cases hp : c.decode .direct p with
  | error m =>
    cases hq : c.decode .direct q with
    | error m' => exact .inl ⟨herror hp, herror hq⟩
    | ok a =>
      rw [hp, hq] at h
      contradiction
  | ok a =>
    cases hq : c.decode .direct q with
    | error m' =>
      rw [hp, hq] at h
      contradiction
    | ok a' =>
      rw [hp, hq] at h
      obtain rfl : a = a' := Option.some.inj h
      right
      rw [hok hp, hok hq]

/-! ### Spellings -/

/-- Events that are respelled are handed over alike. -/
theorem handover?_eq_of_respelled (h : Event.Respelled tag p q) :
  r.handover? tag p = r.handover? tag q
  := by
  cases h with
  | command h =>
    rw [handover?, handover?, if_pos rfl, if_pos rfl, CommandEnvelope.respects .direct p q h]
  | component h =>
    have htag : Event.componentTag ≠ Event.commandTag := by decide
    rw [handover?, handover?, if_neg htag, if_neg htag, if_pos rfl, if_pos rfl,
      ComponentEnvelope.respects .direct p q h]
  | modal h =>
    have htag : Event.modalTag ≠ Event.commandTag := by decide
    have htag' : Event.modalTag ≠ Event.componentTag := by decide
    rw [handover?, handover?, if_neg htag, if_neg htag, if_neg htag', if_neg htag', if_pos rfl,
      if_pos rfl, ModalEnvelope.respects .direct p q h]

/-- Events that are respelled are both malformed, or they are decided on alike. -/
theorem malformed_or_decision_eq_of_respelled (h : Event.Respelled tag p q) :
  r.Malformed tag p ∧ r.Malformed tag q ∨ r.decision tag p = r.decision tag q
  := by
  cases h with
  | command h =>
    apply malformed_or_decision_eq malformed_command decision_command
    apply CommandEnvelope.respects .direct p q h
  | component h =>
    apply malformed_or_decision_eq malformed_component decision_component
    apply ComponentEnvelope.respects .direct p q h
  | modal h =>
    apply malformed_or_decision_eq malformed_modal decision_modal
    apply ModalEnvelope.respects .direct p q h

/-- How the handler of a run ends in its guard, after the platform calls made before; nothing, if a
panic gets out. -/
def Invocation.verdict? (i : Invocation ν) (p : Platform) (past : List Call) : Option Verdict :=
  (i.conduct.run p past i.interaction).ending.guarded.toOption

/-- Of what a platform does nothing shows in an outcome but how the handler ends. -/
theorem outcome_eq_of_verdict_eq {platform platform' : Platform} {past past' : List Call}
    (h : ∀ i ∈ r.invocations tag p, i.verdict? platform past = i.verdict? platform' past') :
  (r.dispatch platform past tag p).outcome = (r.dispatch platform' past' tag p).outcome
  := by
  rw [invocations] at h
  rw [dispatch, dispatch]
  cases hdecision : r.decision tag p with
  | pass => rfl
  | refuse subscriber error => rfl
  | run subscriber interaction conduct =>
    rw [hdecision] at h
    exact congrArg (Option.map (Outcome.ofVerdict r.name tag subscriber))
      (h _ (List.mem_singleton_self _))

/-- However a payload is spelled, with the fields of its records in whatever order and whatever
fields beside them that they do not name: either all that comes of it is one failure, for it is
malformed, or the same handler, if any, is handed the same arguments, the same target and the same
bound data.  What comes of it is the same then, and the outcome is also the same on another platform
if the handler ends there in the same way. -/
theorem routing_ignores_spelling (h : Event.Respelled tag p q) :
  r.Malformed tag p ∧ r.Malformed tag q
    ∨ (∃ handed : Option (Handover ν),
        r.handover? tag p = handed ∧ r.handover? tag q = handed
          ∧ r.invocations tag p = (handed.map Handover.invocation).toList
          ∧ r.invocations tag q = (handed.map Handover.invocation).toList)
      ∧ (∀ platform past, r.dispatch platform past tag p = r.dispatch platform past tag q)
      ∧ ∀ platform platform' past past',
          (∀ i ∈ r.invocations tag p, i.verdict? platform past = i.verdict? platform' past') →
          (r.dispatch platform past tag p).outcome = (r.dispatch platform' past' tag q).outcome
  := by
  obtain hmalformed | hdecision := malformed_or_decision_eq_of_respelled (r := r) h
  · exact .inl hmalformed
  · right
    have hdispatch (platform : Platform) (past : List Call) :
        r.dispatch platform past tag p = r.dispatch platform past tag q := by
      rw [dispatch, dispatch, hdecision]
    have hhanded : r.handover? tag q = r.handover? tag p := (handover?_eq_of_respelled h).symm
    refine ⟨⟨_, rfl, hhanded, r.invocations_eq tag p, ?_⟩, hdispatch, ?_⟩
    · rw [invocations_eq, hhanded]
    · intro platform platform' past past' hverdict
      rw [← hdispatch]
      apply outcome_eq_of_verdict_eq hverdict

/-- The fields of an invocation stand in another order, down to those of a value, of the member and
of its user, and there are others beside them. -/
theorem routing_ignores_spelling_nested :
  let other := ("other", Json.array [])
  let user := [("id", Json.string "7"), ("username", .string "ann")]
  let member (user : Json) := [("nick", Json.null), ("user", user)]
  let days := [("name", Json.string "days"), ("kind", .string "Integer"),
    ("value", .int ⟨2, by decide, by decide⟩)]
  let payload (member days : Json) := [("id", Json.string "1"), ("token", .string "t"),
    ("channelId", .string "c"), ("name", .string "ban"), ("member", member),
    ("options", .array [days])]
  let respell (fields : List (String × Json)) := Json.object (fields ++ [other]).reverse
  let p := Json.object (payload (.object (member (.object user))) (.object days))
  let q := respell (payload (respell (member (respell user))) (respell days))
  let handler : CommandInput → Conduct Argument := fun input =>
    .giving ((input.arguments.get? "days").elim (.finish .success) (.note · (.finish .success)))
  ∃ c, ((Command.Draft.chat "ban" "").parameter "days" (.ofKind .integer "")).build handler = .ok c
    ∧ Event.Respelled Event.commandTag p q
    ∧ let r : Router Argument := { named "router" with catalogue := Catalogue.empty.addAll [c] }
      (r.handover? Event.commandTag p).isSome = true
        ∧ r.handover? Event.commandTag q = r.handover? Event.commandTag p
        ∧ ∀ platform past, r.dispatch platform past Event.commandTag p
            = r.dispatch platform past Event.commandTag q
  := by
  intro other user member days payload respell p q handler
  obtain ⟨c, hbuild⟩ :
      ∃ c, ((Command.Draft.chat "ban" "").parameter "days" (.ofKind .integer "")).build handler
        = .ok c := ⟨_, rfl⟩
  have hrecord {names : List String} {inside : String → Shape} {fields kept : List (String × Json)}
      (hkept : Keyed (fun name => (inside name).Respells) fields kept) (hother : "other" ∉ names)
      (hnodup : ((kept ++ [other]).reverse.map Prod.fst).Nodup) :
      (Shape.record names inside).Respells (.object fields) (respell kept) := by
    refine .inr (.inl ⟨fields, _, rfl, rfl, .intro hkept ?_ (List.reverse_perm _) hnodup⟩)
    intro f hf
    rw [List.mem_singleton.mp hf]
    exact hother
  have huser : User.shape.Respells (.object user) (respell user) :=
    hrecord (.cons ⟨rfl, rfl⟩ (.cons ⟨rfl, rfl⟩ .nil)) (by decide) (by decide)
  have hmember : Invoker.shape.Respells (.object (member (.object user)))
      (respell (member (respell user))) :=
    hrecord (.cons ⟨rfl, rfl⟩ (.cons ⟨rfl, huser⟩ .nil)) (by decide) (by decide)
  have hdays : Supplied.shape.Respells (.object days) (respell days) :=
    hrecord (.cons ⟨rfl, rfl⟩ (.cons ⟨rfl, rfl⟩ (.cons ⟨rfl, rfl⟩ .nil))) (by decide) (by decide)
  have hoptions : (Shape.list Supplied.shape).Respells (.array [.object days])
      (.array [respell days]) := .inr ⟨_, _, rfl, rfl, .cons hdays .nil⟩
  have hrespelled : Event.Respelled Event.commandTag p q := by
    apply Event.Respelled.command
    exact hrecord (.cons ⟨rfl, rfl⟩ (.cons ⟨rfl, rfl⟩ (.cons ⟨rfl, rfl⟩ (.cons ⟨rfl, rfl⟩
      (.cons ⟨rfl, hmember⟩ (.cons ⟨rfl, hoptions⟩ .nil)))))) (by decide) (by decide)
  refine ⟨c, hbuild, hrespelled, ?_⟩
  intro r
  have hsome : (r.handover? Event.commandTag p).isSome = true := by
    obtain rfl := Except.ok.inj hbuild
    rfl
  obtain ⟨⟨hnone, -⟩, -⟩ | ⟨⟨handed, hp, hq, -, -⟩, hdispatch, -⟩ :=
    routing_ignores_spelling (r := r) hrespelled
  · rw [r.invocations_eq, ← Option.some_get hsome] at hnone
    contradiction
  · exact ⟨hsome, hq.trans hp.symm, hdispatch⟩

end Router

end InteractionRouting
