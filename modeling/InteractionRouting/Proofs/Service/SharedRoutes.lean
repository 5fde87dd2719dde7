import InteractionRouting.Proofs.Router.Outcomes
import InteractionRouting.Proofs.Service.CommandHandling

/-!
# Routes that routers share

When a router is taken into a service its commands are compared with those of the other routers,
but its routes for components and forms are not.  The event of a component or a form is handled
once if no two routers have a route of one kind and name, and only then: routers that share a route
are taken in alike, and an event that names this route runs the handlers of both.
-/

namespace InteractionRouting

variable {ν : Type}

/-- Where there is at most one element altogether, at most one of the lists is not empty. -/
theorem pairwise_of_length_flatMap_le_one {α β : Type} {f : α → List β} {l : List α}
    (h : (l.flatMap f).length ≤ 1) :
  l.Pairwise fun a b => f a = [] ∨ f b = []
  := by
  induction l with
  | nil => apply List.Pairwise.nil
  | cons a rest ih =>
    rw [List.flatMap_cons, List.length_append] at h
    constructor
    · intro b hb
      by_contra! hboth
      have hfirst := List.length_pos_iff.mpr hboth.1
      have hrest := List.length_pos_iff.mpr
        (fun hnil => hboth.2 (List.flatMap_eq_nil_iff.mp hnil b hb))
      omega
    · apply ih
      omega

/-! ### The route that an event names -/

/-- The events of components and forms. -/
def Event.routedTags : List String := [componentTag, modalTag]

/-- An event names a route: its payload reads, and its identifier has this name. -/
inductive Event.NamesRoute (payload : Json) : String → RouteKind → String → Prop
  | component {e : ComponentEnvelope} {i : Identifier}
      (hread : ComponentEnvelope.codec.decode .direct payload = .ok e)
      (hidentifier : Identifier.read e.customId = .ok i) :
      NamesRoute payload componentTag (RouteKind.ofComponent e.kind) i.name
  | modal {e : ModalEnvelope} {i : Identifier}
      (hread : ModalEnvelope.codec.decode .direct payload = .ok e)
      (hidentifier : Identifier.read e.customId = .ok i) :
      NamesRoute payload modalTag .modal i.name

namespace Event.NamesRoute

variable {r : Router ν} {payload : Json} {tag name : String} {kind : RouteKind}

/-- A route that an event names has no colon in its name. -/
theorem notMem_name (h : NamesRoute payload tag kind name) :
  ':' ∉ name.toList
  := by
  cases h with
  | component hread hidentifier => apply Identifier.notMem_name_of_read hidentifier
  | modal hread hidentifier => apply Identifier.notMem_name_of_read hidentifier

/-- A handler is run for an event exactly if there is a handler for the route that it names. -/
theorem invocations_eq_nil_iff (h : NamesRoute payload tag kind name) :
  r.invocations tag payload = [] ↔ (r.routes kind).get? name = none
  := by
  rw [Router.invocations]
  cases h with
  | @component e i hread hidentifier =>
    rw [← Router.get?_componentRoutes_eq_none_iff, Router.decision_component hread,
      Router.decideComponent, hidentifier]
    dsimp only
    cases (r.componentRoutes e.kind).get? i.name with
    | none => exact iff_of_true rfl rfl
    | some handler => exact iff_of_false (List.cons_ne_nil _ _) (by rintro ⟨⟩)
  | @modal e i hread hidentifier =>
    rw [Router.decision_modal hread, Router.decideModal, hidentifier, Router.routes]
    dsimp only
    cases r.modals.get? i.name with
    | none => exact iff_of_true rfl rfl
    | some handler => exact iff_of_false (List.cons_ne_nil _ _) (by rintro ⟨⟩)

/-- For an event that names no route no handler is run. -/
theorem invocations_eq_nil (htag : tag ∈ routedTags)
    (h : ∀ kind name, ¬ NamesRoute payload tag kind name) (r : Router ν) :
  r.invocations tag payload = []
  := by
  rw [Router.invocations_eq_nil_iff]
  intro i hcalls
  cases hcalls with
  | command => contradiction
  | button hread hkind hidentifier => apply h _ _ (.component hread hidentifier)
  | selectMenu hread hkind hidentifier => apply h _ _ (.component hread hidentifier)
  | modal hread hidentifier => apply h _ _ (.modal hread hidentifier)

/-- For every route there is an event that names it. -/
theorem exists_of_notMem (kind : RouteKind) (hname : ':' ∉ name.toList) :
  ∃ tag ∈ routedTags, ∃ payload, NamesRoute payload tag kind name
  := by
  have hidentifier := Identifier.read_name hname
  rw [String.ofList_toList] at hidentifier
  have hcomponent (k : ComponentKind) :
      ∃ payload, NamesRoute payload componentTag (RouteKind.ofComponent k) name := by
    let payload := Json.object [("id", .string "1"), ("token", .string "t"),
      ("channelId", .string "c"), ("messageId", .string "m"), ("componentKind", .string k.name),
      ("customId", .string (String.ofList ('0' :: ':' :: name.toList)))]
    obtain ⟨e, hread, hkind, hid⟩ : ∃ e, ComponentEnvelope.codec.decode .direct payload = .ok e
        ∧ e.kind = k ∧ e.customId = String.ofList ('0' :: ':' :: name.toList) := by
      cases k <;> exact ⟨_, rfl, rfl, rfl⟩
    rw [← hid] at hidentifier
    rw [← hkind]
    exact ⟨payload, .component hread hidentifier⟩
  cases kind with
  | button => exact ⟨componentTag, by decide, hcomponent .button⟩
  | selectMenu => exact ⟨componentTag, by decide, hcomponent .stringSelect⟩
  | modal =>
    let payload := Json.object [("id", .string "1"), ("token", .string "t"),
      ("channelId", .string "c"),
      ("customId", .string (String.ofList ('0' :: ':' :: name.toList)))]
    obtain ⟨e, hread, hid⟩ : ∃ e, ModalEnvelope.codec.decode .direct payload = .ok e
        ∧ e.customId = String.ofList ('0' :: ':' :: name.toList) := ⟨_, rfl, rfl⟩
    rw [← hid] at hidentifier
    exact ⟨modalTag, by decide, payload, .modal hread hidentifier⟩

end Event.NamesRoute

/-! ### Events that are handled once -/

/-- Two routers have no route of one kind and name, among the names that identifiers may have. -/
def Router.Apart (r r' : Router ν) : Prop :=
  ∀ kind (name : String), ':' ∉ name.toList →
    (r.routes kind).get? name = none ∨ (r'.routes kind).get? name = none

namespace Service

/-- Where routers are apart, no event of a component or a form runs the handlers of two. -/
theorem pairwise_invocations_of_apart {routers : List (Router ν)}
    (h : routers.Pairwise Router.Apart) {tag : String} (htag : tag ∈ Event.routedTags)
    (payload : Json) :
  routers.Pairwise fun r r' => r.invocations tag payload = [] ∨ r'.invocations tag payload = []
  := by
  by_cases hnames : ∃ kind name, Event.NamesRoute payload tag kind name
  · obtain ⟨kind, name, hnames⟩ := hnames
    apply h.imp
    intro r r' hapart
    rw [hnames.invocations_eq_nil_iff, hnames.invocations_eq_nil_iff]
    apply hapart kind name hnames.notMem_name
  · simp only [not_exists] at hnames
    apply List.pairwise_of_forall
    intro r r'
    left
    apply Event.NamesRoute.invocations_eq_nil htag hnames

/-- Routers of which no event runs the handlers of two are apart. -/
theorem apart_of_pairwise_invocations {routers : List (Router ν)}
    (h : ∀ tag ∈ Event.routedTags, ∀ payload : Json, routers.Pairwise fun r r' =>
      r.invocations tag payload = [] ∨ r'.invocations tag payload = []) :
  routers.Pairwise Router.Apart
  := by
  rw [List.pairwise_iff_forall_sublist]
  intro r r' hsublist kind name hname
  obtain ⟨tag, htag, payload, hnames⟩ := Event.NamesRoute.exists_of_notMem kind hname
  rw [← hnames.invocations_eq_nil_iff, ← hnames.invocations_eq_nil_iff]
  apply List.pairwise_iff_forall_sublist.mp (h tag htag payload) hsublist

/-- For every event of a component or a form at most one handler is run, exactly if routers are
apart. -/
theorem Assembled.length_invocations_le_one_iff {s : Service ν} (h : s.Assembled) :
  (∀ tag ∈ Event.routedTags, ∀ payload : Json,
      (s.exchange.parties.flatMap (·.invocations tag payload)).length ≤ 1)
    ↔ s.routers.Pairwise Router.Apart
  := by
  simp only [Exchange.flatMap_invocations, h.parties]
  constructor
  · intro honce
    apply apart_of_pairwise_invocations
    intro tag htag payload
    apply pairwise_of_length_flatMap_le_one (honce tag htag payload)
  · intro hapart tag htag payload
    apply length_flatMap_le_one
    · intro r hr
      apply Router.Decision.length_invocations_le_one
    · apply pairwise_invocations_of_apart hapart htag

/-- However a service was put together: for every event of a component or a form at most one
handler is run among all parties, exactly if no two of its routers have a route of one kind and
name.  In this case at most one callback is sent in the course of such an event, whatever handlers
do and whatever the platform answers. -/
theorem handled_once_iff_apart {config : Config} {p : Platform} {registrar : Option Registrar}
    {opened : Service ν} (h : open? config p registrar = some opened)
    (changes : List (Change ν)) :
  let s := opened.assemble changes
  ((∀ tag ∈ Event.routedTags, ∀ payload : Json,
        (s.exchange.parties.flatMap (·.invocations tag payload)).length ≤ 1)
      ↔ s.routers.Pairwise Router.Apart)
    ∧ (s.routers.Pairwise Router.Apart → ∀ tag ∈ Event.routedTags,
        ∀ (past : List Call) (payload : Json),
          Happening.callbacks (s.exchange.dispatch s.platform past tag payload).happenings ≤ 1)
  := by
  intro s
  have honce := ((assembled_open h).assemble changes).length_invocations_le_one_iff
  use honce
  intro hapart tag htag past payload
  apply Nat.le_trans (s.exchange.callbacks_dispatch_le s.platform past tag payload)
  apply honce.mpr hapart tag htag

/-- A button, a menu and a form of one name, in two routers: they are of different kinds. -/
theorem handled_once_iff_apart_of_kinds :
  let answer : Conduct Unit :=
    .giving <| .perform (.ackWithDeferredMessage none) fun _ _ => .finish .success
  let first := (Router.named "a").registerAll [⟨.button, "go", fun _ => answer⟩,
    ⟨.modal, "go", fun _ => answer⟩]
  let second := (Router.named "b").registerAll [⟨.selectMenu, "go", fun _ => answer⟩]
  ∃ opened : Service Unit, open? .standard obliging none = some opened
    ∧ let s := opened.assemble [.router first, .router second]
      s.routers.map (·.name) = ["a", "b"]
        ∧ s.routers.Pairwise Router.Apart
        ∧ ∀ tag ∈ Event.routedTags, ∀ (past : List Call) (payload : Json),
            (s.exchange.parties.flatMap (·.invocations tag payload)).length ≤ 1
              ∧ Happening.callbacks (s.exchange.dispatch s.platform past tag payload).happenings ≤ 1
  := by
  intro answer first second
  obtain ⟨opened, hopen⟩ : ∃ opened : Service Unit, open? .standard obliging none = some opened :=
    ⟨_, rfl⟩
  use opened, hopen
  obtain ⟨honce, hcallbacks⟩ := handled_once_iff_apart hopen [.router first, .router second]
  have hrouters : (opened.assemble [.router first, .router second]).routers = [first, second] := by
    obtain rfl := Option.some.inj hopen
    rfl
  have hapart : Router.Apart first second := by
    intro kind name hname
    cases kind with
    | button => exact .inr rfl
    | selectMenu => exact .inl rfl
    | modal => exact .inr rfl
  have hpairwise : (opened.assemble [.router first, .router second]).routers.Pairwise
      Router.Apart := by
    rw [hrouters]
    apply List.pairwise_pair.mpr hapart
  refine ⟨by rw [hrouters]; rfl, hpairwise, ?_⟩
  intro tag htag past payload
  exact ⟨honce.mpr hpairwise tag htag payload, hcallbacks hpairwise tag htag past payload⟩

/-- A button of one name in two routers, both of which are taken in: when it is used both handlers
are run, and a callback is sent twice. -/
theorem handled_twice_of_shared_button :
  let answer : Conduct Unit :=
    .giving <| .perform (.ackWithDeferredMessage none) fun _ _ => .finish .success
  let router (name : String) := (Router.named name).registerAll [⟨.button, "go", fun _ => answer⟩]
  let payload := Json.object [("id", .string "1"), ("token", .string "t"),
    ("channelId", .string "c"), ("messageId", .string "m"), ("componentKind", .string "Button"),
    ("customId", .string "0:go")]
  ∃ opened : Service Unit, open? .standard obliging none = some opened
    ∧ let s := opened.assemble [.router (router "a"), .router (router "b")]
      let d := s.exchange.dispatch s.platform [] Event.componentTag payload
      s.routers.map (·.name) = ["a", "b"]
        ∧ (s.exchange.parties.flatMap (·.invocations Event.componentTag payload)).length = 2
        ∧ d.outcome = some ⟨2, []⟩
        ∧ Happening.callbacks d.happenings = 2
  := by
  intro answer router payload
  exact ⟨_, rfl, rfl, rfl, rfl, rfl⟩

end Service

end InteractionRouting
