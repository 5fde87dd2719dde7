import InteractionRouting.Proofs.Catalogue.Matching
import InteractionRouting.Proofs.Conduct.Runs
import InteractionRouting.Proofs.Router.Routing

/-!
# What comes of an event

An event calls a handler, or it is refused, or it is let pass, whatever handlers do.

* An event calls a handler if its payload reads and the handler is found: a command by its names
  and with arguments and a target that resolve, a component or a form by its identifier.
* An event is refused if its payload does not read, or if what a command that is found needs does
  not resolve.
* All other events are let pass.

What is reported of an event tells the three apart, and of a handler that was called it tells how
it went.
-/

namespace InteractionRouting

namespace Router

variable {ν : Type}

/-- The handler of a run goes in this way, after the platform calls made before. -/
def Invocation.Goes (i : Invocation ν) (p : Platform) (past : List Call)
    (happenings : List (Happening ν)) (ending : Ending) : Prop :=
  i.conduct.Goes p past i.interaction happenings ending

/-- An event calls a handler, and this is its run. -/
inductive Calls (r : Router ν) (payload : Json) : String → Invocation ν → Prop
  /-- A command of the router that the envelope names, with all it needs. -/
  | command {e : CommandEnvelope} {c : Command (CommandInput → Conduct ν)} {arguments : Arguments}
      {target : Option Target} (hread : CommandEnvelope.codec.decode .direct payload = .ok e)
      (hmem : c ∈ r.catalogue.commands) (hnamed : Catalogue.IsNamedBy c e)
      (harguments : Arguments.resolve c.signature e = .ok arguments)
      (htarget : e.target = .ok target) :
      Calls r payload Event.commandTag
        ⟨s!"command:{c.path}", .fresh e.id e.token .command, c.handler ⟨e, target, arguments⟩⟩
  /-- A button whose identifier has the name of a route for buttons. -/
  | button {e : ComponentEnvelope} {i : Identifier} {handler : ComponentInput → Conduct ν}
      (hread : ComponentEnvelope.codec.decode .direct payload = .ok e) (hkind : e.kind = .button)
      (hidentifier : Identifier.read e.customId = .ok i)
      (hroute : r.buttons.get? i.name = some handler) :
      Calls r payload Event.componentTag
        ⟨s!"button:{i.name}", .fresh e.id e.token .component, handler ⟨e, i⟩⟩
  /-- A menu whose identifier has the name of a route for menus. -/
  | selectMenu {e : ComponentEnvelope} {i : Identifier} {handler : ComponentInput → Conduct ν}
      (hread : ComponentEnvelope.codec.decode .direct payload = .ok e) (hkind : e.kind ≠ .button)
      (hidentifier : Identifier.read e.customId = .ok i)
      (hroute : r.selectMenus.get? i.name = some handler) :
      Calls r payload Event.componentTag
        ⟨s!"select_menu:{i.name}", .fresh e.id e.token .component, handler ⟨e, i⟩⟩
  /-- A form whose identifier has the name of a route for forms. -/
  | modal {e : ModalEnvelope} {i : Identifier} {handler : ModalInput → Conduct ν}
      (hread : ModalEnvelope.codec.decode .direct payload = .ok e)
      (hidentifier : Identifier.read e.customId = .ok i)
      (hroute : r.modals.get? i.name = some handler) :
      Calls r payload Event.modalTag
        ⟨s!"modal:{i.name}", .fresh e.id e.token .modal, handler ⟨e, i⟩⟩

/-- An event is refused: its payload does not read, or it names a command of the router whose
arguments or whose target do not resolve. -/
inductive Refuses (r : Router ν) (payload : Json) : String → Prop
  | command {m : Wire.Mismatch} (hread : CommandEnvelope.codec.decode .direct payload = .error m) :
      Refuses r payload Event.commandTag
  | component {m : Wire.Mismatch}
      (hread : ComponentEnvelope.codec.decode .direct payload = .error m) :
      Refuses r payload Event.componentTag
  | modal {m : Wire.Mismatch} (hread : ModalEnvelope.codec.decode .direct payload = .error m) :
      Refuses r payload Event.modalTag
  | arguments {e : CommandEnvelope} {c : Command (CommandInput → Conduct ν)}
      {error : ResolutionError} (hread : CommandEnvelope.codec.decode .direct payload = .ok e)
      (hmem : c ∈ r.catalogue.commands) (hnamed : Catalogue.IsNamedBy c e)
      (herror : Arguments.resolve c.signature e = .error error) :
      Refuses r payload Event.commandTag
  | target {e : CommandEnvelope} {c : Command (CommandInput → Conduct ν)}
      {error : ResolutionError} (hread : CommandEnvelope.codec.decode .direct payload = .ok e)
      (hmem : c ∈ r.catalogue.commands) (hnamed : Catalogue.IsNamedBy c e)
      (herror : e.target = .error error) :
      Refuses r payload Event.commandTag

variable {r : Router ν} {tag : String} {payload : Json} {i : Invocation ν}

/-! ### What is decided on -/

/-- The handler that an event calls is run. -/
theorem Calls.runs (h : r.Calls payload tag i) :
  r.Runs tag payload i
  := by
  cases h with
  | command hread hmem hnamed harguments htarget =>
    apply runs_of_run
    rw [decision_command hread, decideCommand, Catalogue.find?_eq_some_iff.mpr ⟨hmem, hnamed⟩]
    dsimp only
    rw [harguments]
    dsimp only
    rw [htarget]
  | button hread hkind hidentifier hroute => apply runs_button hread hkind hidentifier hroute
  | selectMenu hread hkind hidentifier hroute =>
    apply runs_selectMenu hread hkind hidentifier hroute
  | modal hread hidentifier hroute => apply runs_modal hread hidentifier hroute

/-- A router that refuses an event decides so. -/
theorem Refuses.decision_eq (h : r.Refuses payload tag) :
  ∃ subscriber error, r.decision tag payload = .refuse subscriber error
  := by
  cases h with
  | command hread =>
    rw [decision, if_pos rfl, readPayload, hread]
    exact ⟨_, _, rfl⟩
  | component hread =>
    rw [decision, if_neg (by decide), if_pos rfl, readPayload, hread]
    exact ⟨_, _, rfl⟩
  | modal hread =>
    rw [decision, if_neg (by decide), if_neg (by decide), if_pos rfl, readPayload, hread]
    exact ⟨_, _, rfl⟩
  | arguments hread hmem hnamed herror =>
    rw [decision_command hread, decideCommand, Catalogue.find?_eq_some_iff.mpr ⟨hmem, hnamed⟩]
    dsimp only
    rw [herror]
    exact ⟨_, _, rfl⟩
  | @target e c error hread hmem hnamed herror =>
    rw [decision_command hread, decideCommand, Catalogue.find?_eq_some_iff.mpr ⟨hmem, hnamed⟩]
    dsimp only
    -- the arguments come first, and may fail as well
    cases Arguments.resolve c.signature e with
    | error error => exact ⟨_, _, rfl⟩
    | ok arguments =>
      dsimp only
      rw [herror]
      exact ⟨_, _, rfl⟩

/-- What becomes of a command: its handler is called, or it is refused, or no command is found. -/
theorem command_cases (r : Router ν) (payload : Json) :
  (∃ i, r.Calls payload Event.commandTag i) ∨ r.Refuses payload Event.commandTag
    ∨ r.decision Event.commandTag payload = .pass
  := by
  cases hread : CommandEnvelope.codec.decode .direct payload with
  | error m => exact .inr (.inl (.command hread))
  | ok e =>
    rw [decision_command hread, decideCommand]
    cases hfind : r.catalogue.find? e with
    | none => exact .inr (.inr rfl)
    | some c =>
      obtain ⟨hmem, hnamed⟩ := Catalogue.find?_eq_some_iff.mp hfind
      cases harguments : Arguments.resolve c.signature e with
      | error error => exact .inr (.inl (.arguments hread hmem hnamed harguments))
      | ok arguments =>
        cases htarget : e.target with
        | error error => exact .inr (.inl (.target hread hmem hnamed htarget))
        | ok target => exact .inl ⟨_, .command hread hmem hnamed harguments htarget⟩

/-- A component calls a handler, is refused, or is passed over. -/
theorem component_cases (r : Router ν) (payload : Json) :
  (∃ i, r.Calls payload Event.componentTag i) ∨ r.Refuses payload Event.componentTag
    ∨ r.decision Event.componentTag payload = .pass
  := by
  cases hread : ComponentEnvelope.codec.decode .direct payload with
  | error m => exact .inr (.inl (.component hread))
  | ok e =>
    rw [decision_component hread, decideComponent]
    cases hidentifier : Identifier.read e.customId with
    | error error => exact .inr (.inr rfl)
    | ok i =>
      dsimp only
      cases hroute : (r.componentRoutes e.kind).get? i.name with
      | none => exact .inr (.inr rfl)
      | some handler =>
        left
        by_cases hkind : e.kind = .button
        · rw [hkind, componentRoutes_button] at hroute
          exact ⟨_, .button hread hkind hidentifier hroute⟩
        · rw [r.componentRoutes_of_ne hkind] at hroute
          exact ⟨_, .selectMenu hread hkind hidentifier hroute⟩

/-- A form calls a handler, is refused, or is passed over. -/
theorem modal_cases (r : Router ν) (payload : Json) :
  (∃ i, r.Calls payload Event.modalTag i) ∨ r.Refuses payload Event.modalTag
    ∨ r.decision Event.modalTag payload = .pass
  := by
  cases hread : ModalEnvelope.codec.decode .direct payload with
  | error m => exact .inr (.inl (.modal hread))
  | ok e =>
    rw [decision_modal hread, decideModal]
    cases hidentifier : Identifier.read e.customId with
    | error error => exact .inr (.inr rfl)
    | ok i =>
      dsimp only
      cases hroute : r.modals.get? i.name with
      | none => exact .inr (.inr rfl)
      | some handler => exact .inl ⟨_, .modal hread hidentifier hroute⟩

/-- Events of other tags are none of a router's business. -/
theorem decision_of_other_tag (r : Router ν) (payload : Json)
    (h : tag ∉ [Event.commandTag, Event.componentTag, Event.modalTag]) :
  r.decision tag payload = .pass
  := by
  simp only [List.mem_cons, List.not_mem_nil, or_false, not_or] at h
  rw [decision, if_neg h.1, if_neg h.2.1, if_neg h.2.2]

/-- An event calls a handler, or it is refused, or it is let pass. -/
theorem calls_or_refuses_or_pass (r : Router ν) (tag : String) (payload : Json) :
  (∃ i, r.Calls payload tag i) ∨ r.Refuses payload tag ∨ r.decision tag payload = .pass
  := by
  by_cases htag : tag ∈ [Event.commandTag, Event.componentTag, Event.modalTag]
  · simp only [List.mem_cons, List.not_mem_nil, or_false] at htag
    obtain rfl | rfl | rfl := htag
    · apply command_cases
    · apply component_cases
    · apply modal_cases
  · exact .inr (.inr (decision_of_other_tag r payload htag))

/-- No handler is run on an event that is refused. -/
theorem Refuses.invocations_eq (h : r.Refuses payload tag) :
  r.invocations tag payload = []
  := by
  obtain ⟨subscriber, error, hdecision⟩ := h.decision_eq
  rw [invocations, hdecision]
  rfl

/-- The runs of handlers for an event are those that it calls. -/
theorem mem_invocations_iff :
  i ∈ r.invocations tag payload ↔ r.Calls payload tag i
  := by
  constructor
  · intro hi
    obtain ⟨i', hcalls⟩ | hrefuses | hpass := r.calls_or_refuses_or_pass tag payload
    · rw [hcalls.runs.1, List.mem_singleton] at hi
      rw [hi]
      apply hcalls
    · rw [hrefuses.invocations_eq] at hi
      contradiction
    · rw [invocations_of_pass hpass] at hi
      contradiction
  · intro h
    rw [h.runs.1]
    apply List.mem_singleton_self

/-- No handler is run exactly if the event calls none. -/
theorem invocations_eq_nil_iff :
  r.invocations tag payload = [] ↔ ∀ i, ¬ r.Calls payload tag i
  := by
  simp only [List.eq_nil_iff_forall_not_mem, mem_invocations_iff]

/-- An event that calls a handler is not refused. -/
theorem Calls.not_refuses (h : r.Calls payload tag i) :
  ¬ r.Refuses payload tag
  := by
  intro hrefuses
  have hinvocations := h.runs.1
  rw [hrefuses.invocations_eq] at hinvocations
  contradiction

/-- An event calls at most one handler. -/
theorem Calls.unique {i' : Invocation ν} (h : r.Calls payload tag i) (h' : r.Calls payload tag i') :
  i' = i
  := by
  have hinvocations := h.runs.1
  rw [h'.runs.1, List.singleton_inj] at hinvocations
  apply hinvocations

/-! ### What is reported -/

/-- What comes of an event that is refused: nobody was run, and there is one failure. -/
theorem Refuses.dispatch_eq (h : r.Refuses payload tag) (p : Platform) (past : List Call) :
  ∃ subscriber error, r.dispatch p past tag payload = .refused r.name tag subscriber error
  := by
  obtain ⟨subscriber, error, hdecision⟩ := h.decision_eq
  use subscriber, error
  rw [dispatch, hdecision, carryOut]

/-- What comes of an event is what comes of the handler that it calls, or it is one failure, or
it is nothing. -/
theorem dispatch_cases (r : Router ν) (p : Platform) (past : List Call) (tag : String)
    (payload : Json) :
  (∃ i, r.Calls payload tag i ∧ r.dispatch p past tag payload = i.deliver r.name p past tag)
    ∨ (r.Refuses payload tag ∧ (∀ i, ¬ r.Calls payload tag i)
      ∧ ∃ subscriber error, r.dispatch p past tag payload
          = .refused r.name tag subscriber error)
    ∨ (¬ r.Refuses payload tag ∧ (∀ i, ¬ r.Calls payload tag i)
      ∧ r.dispatch p past tag payload = .none)
  := by
  obtain ⟨i, hcalls⟩ | hrefuses | hpass := r.calls_or_refuses_or_pass tag payload
  · exact .inl ⟨i, hcalls, hcalls.runs.2 p past⟩
  · exact .inr (.inl ⟨hrefuses, fun i hcalls => hcalls.not_refuses hrefuses,
      hrefuses.dispatch_eq p past⟩)
  · have hcalls := invocations_eq_nil_iff.mp (invocations_of_pass hpass)
    have hrefuses : ¬ r.Refuses payload tag := by
      intro h
      obtain ⟨subscriber, error, hdecision⟩ := h.decision_eq
      rw [hpass] at hdecision
      contradiction
    exact .inr (.inr ⟨hrefuses, hcalls, dispatch_of_pass hpass p past⟩)

/-- A handler that is called goes in one way; that is what happens, and what is reported of its
ending is the outcome. -/
theorem Calls.exists_ending (h : r.Calls payload tag i) (p : Platform) (past : List Call) :
  ∃ ending,
    (∀ happenings ending', i.Goes p past happenings ending'
      ↔ happenings = (r.dispatch p past tag payload).happenings ∧ ending' = ending)
    ∧ ending.Reported r.name tag i.subscriber (r.dispatch p past tag payload).outcome
  := by
  rw [h.runs.2 p past]
  use (i.conduct.run p past i.interaction).ending
  constructor
  · intro happenings ending'
    apply Conduct.goes_iff
  · obtain ⟨outcome, hreported⟩ :=
      (i.conduct.run p past i.interaction).ending.exists_reported r.name tag i.subscriber
    rw [Invocation.deliver, hreported.ofRun_eq]
    apply hreported

/-- The event has an outcome just if the handler that it calls does not return an error that panics
when it is asked for what it says. -/
theorem outcome_eq_none_iff (p : Platform) (past : List Call) :
  (r.dispatch p past tag payload).outcome = none
    ↔ ∃ i happenings ending, r.Calls payload tag i ∧ i.Goes p past happenings ending
        ∧ ending.Escapes
  := by
  obtain ⟨i, hcalls, -⟩ | ⟨-, hcalls, subscriber, error, hdispatch⟩ | ⟨-, hcalls, hdispatch⟩ :=
    r.dispatch_cases p past tag payload
  · obtain ⟨ending, hgoes, hreported⟩ := hcalls.exists_ending p past
    constructor
    · intro hnone
      rw [hnone] at hreported
      cases hreported with
      | nothing hescapes => exact ⟨i, _, ending, hcalls, (hgoes _ _).mpr ⟨rfl, rfl⟩, hescapes⟩
    · rintro ⟨i', happenings, ending', hcalls', hgoes', hescapes⟩
      obtain rfl := hcalls.unique hcalls'
      obtain ⟨-, rfl⟩ := (hgoes _ _).mp hgoes'
      apply hreported.unique (.nothing hescapes)
  · rw [hdispatch]
    apply iff_of_false (by rintro ⟨⟩)
    rintro ⟨i, -, -, hi, -⟩
    apply hcalls i hi
  · rw [hdispatch]
    apply iff_of_false (by rintro ⟨⟩)
    rintro ⟨i, -, -, hi, -⟩
    apply hcalls i hi

section

variable (r tag payload) {p : Platform} {past : List Call} {o : Outcome}

/-- An outcome is reported of the handler that the event calls, or it is one failure, or it is
nothing. -/
theorem outcome_cases (h : (r.dispatch p past tag payload).outcome = some o) :
  (∃ i ending, r.Calls payload tag i
      ∧ (∀ happenings ending', i.Goes p past happenings ending'
        ↔ happenings = (r.dispatch p past tag payload).happenings ∧ ending' = ending)
      ∧ ending.Reported r.name tag i.subscriber (some o))
    ∨ (r.Refuses payload tag ∧ (∀ i, ¬ r.Calls payload tag i)
      ∧ ∃ subscriber error, o = .refused r.name tag subscriber error)
    ∨ (¬ r.Refuses payload tag ∧ (∀ i, ¬ r.Calls payload tag i) ∧ o = .none)
  := by
  obtain ⟨i, hcalls, -⟩ | ⟨hrefuses, hcalls, subscriber, error, hdispatch⟩
    | ⟨hrefuses, hcalls, hdispatch⟩ := r.dispatch_cases p past tag payload
  · obtain ⟨ending, hgoes, hreported⟩ := hcalls.exists_ending p past
    rw [h] at hreported
    exact .inl ⟨i, ending, hcalls, hgoes, hreported⟩
  · rw [hdispatch] at h
    exact .inr (.inl ⟨hrefuses, hcalls, subscriber, error, (Option.some.inj h).symm⟩)
  · rw [hdispatch] at h
    exact .inr (.inr ⟨hrefuses, hcalls, (Option.some.inj h).symm⟩)

/-- There is at most one failure, and it names the router and the tag. -/
theorem failures_dispatch (h : (r.dispatch p past tag payload).outcome = some o) :
  o.failures.length ≤ 1 ∧ ∀ f ∈ o.failures, f.target = r.name ∧ f.tag = tag
  := by
  obtain ⟨i, ending, -, -, hreported⟩ | ⟨-, -, subscriber, error, rfl⟩ | ⟨-, -, rfl⟩ :=
    r.outcome_cases tag payload h
  · cases hreported with
    | success => simp
    | failure => simp
  · simp [Outcome.refused]
  · simp [Outcome.none]

/-- An event fails without a handler exactly if it is refused. -/
theorem fails_unhandled_iff (h : (r.dispatch p past tag payload).outcome = some o) :
  o.delivered = 0 ∧ o.failures ≠ [] ↔ r.Refuses payload tag
  := by
  obtain ⟨i, ending, hcalls, -, hreported⟩ | ⟨hrefuses, -, subscriber, error, rfl⟩
    | ⟨hrefuses, -, rfl⟩ := r.outcome_cases tag payload h
  · cases hreported with
    | success => exact iff_of_false (by simp) hcalls.not_refuses
    | failure => exact iff_of_false (by simp) hcalls.not_refuses
  · exact iff_of_true ⟨rfl, List.cons_ne_nil _ _⟩ hrefuses
  · exact iff_of_false (fun h => h.2 rfl) hrefuses

/-- An event fails with a handler exactly if it calls one that fails. -/
theorem fails_handled_iff (h : (r.dispatch p past tag payload).outcome = some o) :
  o.delivered = 1 ∧ o.failures ≠ []
    ↔ ∃ i happenings ending error panicked, r.Calls payload tag i ∧ i.Goes p past happenings ending
        ∧ ending.Fails error panicked
  := by
  obtain ⟨i, ending, hcalls, hgoes, hreported⟩ | ⟨-, hcalls, subscriber, error, rfl⟩
    | ⟨-, hcalls, rfl⟩ := r.outcome_cases tag payload h
  · cases hreported with
    | success =>
      apply iff_of_false (fun h => h.2 rfl)
      rintro ⟨i', happenings, ending, error, panicked, hcalls', hgoes', hfails⟩
      obtain rfl := hcalls.unique hcalls'
      obtain ⟨-, rfl⟩ := (hgoes _ _).mp hgoes'
      apply hfails.ne_success rfl
    | failure hfails =>
      have hgoes' := (hgoes _ _).mpr ⟨rfl, rfl⟩
      exact iff_of_true ⟨rfl, List.cons_ne_nil _ _⟩ ⟨i, _, ending, _, _, hcalls, hgoes', hfails⟩
  · apply iff_of_false (by rintro ⟨⟨⟩, -⟩)
    rintro ⟨i, -, -, -, -, hi, -⟩
    apply hcalls i hi
  · apply iff_of_false (by rintro ⟨⟨⟩, -⟩)
    rintro ⟨i, -, -, -, -, hi, -⟩
    apply hcalls i hi

/-- Nothing comes of an event exactly if it is neither refused nor calls a handler. -/
theorem eq_none_iff (h : (r.dispatch p past tag payload).outcome = some o) :
  o = .none ↔ ¬ r.Refuses payload tag ∧ ∀ i, ¬ r.Calls payload tag i
  := by
  obtain ⟨i, ending, hcalls, -, hreported⟩ | ⟨hrefuses, -, subscriber, error, rfl⟩
    | ⟨hrefuses, hcalls, rfl⟩ := r.outcome_cases tag payload h
  · apply iff_of_false
    · rintro rfl
      cases hreported
    · rintro ⟨-, hnone⟩
      apply hnone i hcalls
  · exact iff_of_false (by rintro ⟨⟩) (fun h => h.1 hrefuses)
  · exact iff_of_true rfl ⟨hrefuses, hcalls⟩

end

variable (r tag payload)

end Router

end InteractionRouting
