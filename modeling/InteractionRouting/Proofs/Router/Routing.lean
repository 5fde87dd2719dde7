import InteractionRouting.Proofs.Identifier.RoundTrip
import InteractionRouting.Proofs.Router.Invocation
import Mathlib.Data.List.Induction

/-!
# An identifier comes back to its handler

Routes are added to a router one after the other, and a route that is refused changes nothing.
As the first route of its kind and name is the only one that is accepted, a table holds under a
name the handler that was accepted for it.  The identifier that is written for this name and for
some data is read as the same name and data when the component is used, so the event runs this
handler and no other.
-/

namespace InteractionRouting

variable {ν : Type}

/-! ### Adding routes -/

/-- What the handler of a route is given. -/
abbrev RouteKind.Input : RouteKind → Type
  | button => ComponentInput
  | selectMenu => ComponentInput
  | modal => ModalInput

/-- What is no button is a menu. -/
theorem ComponentKind.isSelectMenu_of_ne {k : ComponentKind} (h : k ≠ .button) :
  k.isSelectMenu = true
  := by
  apply decide_eq_true h

/-- What is no button is routed as a menu. -/
theorem RouteKind.ofComponent_of_ne {k : ComponentKind} (h : k ≠ .button) :
  RouteKind.ofComponent k = .selectMenu
  := by
  rw [ofComponent, if_pos (ComponentKind.isSelectMenu_of_ne h)]

/-- A handler that is to be found by name. -/
structure Route (ν : Type) where
  kind : RouteKind
  name : String
  handler : kind.Input → Conduct ν

namespace Router

/-- The routes of a kind. -/
def routes (r : Router ν) : (kind : RouteKind) → Table (kind.Input → Conduct ν)
  | .button => r.buttons
  | .selectMenu => r.selectMenus
  | .modal => r.modals

/-- The router with other routes of a kind. -/
def setRoutes (r : Router ν) : (kind : RouteKind) → Table (kind.Input → Conduct ν) → Router ν
  | .button, t => { r with buttons := t }
  | .selectMenu, t => { r with selectMenus := t }
  | .modal, t => { r with modals := t }

/-- The routes of a kind are those that were set. -/
theorem routes_setRoutes (r : Router ν) (kind : RouteKind) (t : Table (kind.Input → Conduct ν)) :
  (r.setRoutes kind t).routes kind = t
  := by
  cases kind <;> rfl

/-- The routes of other kinds stay. -/
theorem routes_setRoutes_of_ne (r : Router ν) {kind kind' : RouteKind} (h : kind' ≠ kind)
    (t : Table (kind.Input → Conduct ν)) :
  (r.setRoutes kind t).routes kind' = r.routes kind'
  := by
  cases kind <;> cases kind' <;> trivial

/-- A new router has no routes. -/
theorem routes_named (title : String) (catalogue : Catalogue (CommandInput → Conduct ν))
    (kind : RouteKind) :
  ({ named title with catalogue := catalogue } : Router ν).routes kind = .empty
  := by
  cases kind <;> rfl

theorem componentRoutes_button (r : Router ν) :
  r.componentRoutes .button = r.buttons
  := by
  rfl

theorem componentRoutes_of_ne (r : Router ν) {k : ComponentKind} (h : k ≠ .button) :
  r.componentRoutes k = r.selectMenus
  := by
  rw [componentRoutes, if_pos (ComponentKind.isSelectMenu_of_ne h)]

/-- A component has no handler exactly if there is no route of its kind and name. -/
theorem get?_componentRoutes_eq_none_iff {r : Router ν} {k : ComponentKind} {name : String} :
  (r.componentRoutes k).get? name = none ↔ (r.routes (RouteKind.ofComponent k)).get? name = none
  := by
  cases k <;> rfl

theorem get?_componentRoutes_eq_none {r : Router ν} {k : ComponentKind} {name : String}
    (h : (r.routes (RouteKind.ofComponent k)).get? name = none) :
  (r.componentRoutes k).get? name = none
  := get?_componentRoutes_eq_none_iff.mpr h

/-- Adds a route. -/
def add (r : Router ν) : Route ν → Except RouteError (Router ν)
  | ⟨.button, name, handler⟩ => r.addButton name handler
  | ⟨.selectMenu, name, handler⟩ => r.addSelectMenu name handler
  | ⟨.modal, name, handler⟩ => r.addModal name handler

/-- A route is added to the table of its kind, whichever that is. -/
theorem add_eq (r : Router ν) (x : Route ν) :
  r.add x = (addRoute x.kind (r.routes x.kind) x.name x.handler).map (r.setRoutes x.kind)
  := by
  obtain ⟨kind, name, handler⟩ := x
  cases kind <;> rfl

/-- Whether a route can be added. -/
def Accepts (r : Router ν) (x : Route ν) : Prop :=
  ∃ r', r.add x = .ok r'

/-- Adds a route, if it can be added. -/
def register (r : Router ν) (x : Route ν) : Router ν :=
  (r.add x).toOption.getD r

/-- Adds the routes that can be added, one after the other. -/
def registerAll (r : Router ν) (routes : List (Route ν)) : Router ν :=
  routes.foldl register r

/-- The last route is registered after the others. -/
theorem registerAll_concat (r : Router ν) (routes : List (Route ν)) (x : Route ν) :
  r.registerAll (routes ++ [x]) = (r.registerAll routes).register x
  := by
  rw [registerAll, List.foldl_append]
  rfl

/-- A route is added if its name has no colon and is new, and then it comes last. -/
theorem addRoute_eq_ok_iff {η : Type} {kind : RouteKind} {t t' : Table η} {name : String}
    {handler : η} :
  addRoute kind t name handler = .ok t'
    ↔ ':' ∉ name.toList ∧ t.get? name = none ∧ t.insert name handler = t'
  := by
  unfold addRoute
  split_ifs with hname hknown
  · simp [List.contains_iff_mem.mp hname]
  · simp [Option.isSome_iff_ne_none.mp hknown]
  · have hname : ':' ∉ name.toList := fun hmem => hname (List.contains_iff_mem.mpr hmem)
    have hnew : t.get? name = none := Option.not_isSome_iff_eq_none.mp hknown
    simp [hname, hnew]

/-- A router accepts a route exactly if its name has no colon and is new among those of its kind. -/
theorem accepts_iff {r : Router ν} {x : Route ν} :
  r.Accepts x ↔ ':' ∉ x.name.toList ∧ (r.routes x.kind).get? x.name = none
  := by
  rw [Accepts, add_eq]
  constructor
  · rintro ⟨r', h⟩
    cases hadd : addRoute x.kind (r.routes x.kind) x.name x.handler with
    | error error =>
      rw [hadd] at h
      contradiction
    | ok t =>
      obtain ⟨hname, hnew, -⟩ := addRoute_eq_ok_iff.mp hadd
      exact ⟨hname, hnew⟩
  · rintro ⟨hname, hnew⟩
    rw [addRoute_eq_ok_iff.mpr ⟨hname, hnew, rfl⟩]
    exact ⟨_, rfl⟩

/-- A route that is refused changes nothing. -/
theorem register_of_not_accepts {r : Router ν} {x : Route ν} (h : ¬ r.Accepts x) :
  r.register x = r
  := by
  rw [register]
  cases hadd : r.add x with
  | error error => rfl
  | ok r' => exact absurd ⟨r', hadd⟩ h

/-- A route that is accepted is added to those of its kind. -/
theorem register_of_accepts {r : Router ν} {x : Route ν} (h : r.Accepts x) :
  r.register x = r.setRoutes x.kind ((r.routes x.kind).insert x.name x.handler)
  := by
  obtain ⟨hname, hnew⟩ := accepts_iff.mp h
  rw [register, add_eq, addRoute_eq_ok_iff.mpr ⟨hname, hnew, rfl⟩]
  rfl

/-- A route changes no table but that of its kind. -/
theorem routes_register_of_ne (r : Router ν) {x : Route ν} {kind : RouteKind} (h : kind ≠ x.kind) :
  (r.register x).routes kind = r.routes kind
  := by
  by_cases hx : r.Accepts x
  · rw [register_of_accepts hx, routes_setRoutes_of_ne r h]
  · rw [register_of_not_accepts hx]

/-- What is found after one more route was added was there before, or is the route that was
added. -/
theorem get?_register_eq_some_iff (r : Router ν) (x : Route ν) {kind : RouteKind} {name : String}
    {handler : kind.Input → Conduct ν} :
  ((r.register x).routes kind).get? name = some handler
    ↔ (r.routes kind).get? name = some handler ∨ x = ⟨kind, name, handler⟩ ∧ r.Accepts x
  := by
  by_cases hx : r.Accepts x
  · by_cases hkind : kind = x.kind
    · subst hkind
      obtain ⟨-, hnew⟩ := accepts_iff.mp hx
      rw [register_of_accepts hx, routes_setRoutes, Table.get?_insert]
      by_cases hname : name = x.name
      · subst hname
        obtain ⟨kind, name, handler'⟩ := x
        simp_all
      · obtain ⟨kind, name', handler'⟩ := x
        have : name' ≠ name := Ne.symm hname
        simp [hname, this]
    · rw [routes_register_of_ne r hkind]
      have : ∀ (name : String) (handler : kind.Input → Conduct ν), x ≠ ⟨kind, name, handler⟩ := by
        rintro name handler rfl
        apply hkind rfl
      simp [this]
  · rw [register_of_not_accepts hx]
    simp [hx]

/-- A valid name stays without a route as long as no route of that kind and name is added. -/
theorem get?_register_eq_none_iff (r : Router ν) (x : Route ν) {kind : RouteKind} {name : String}
    (hname : ':' ∉ name.toList) :
  ((r.register x).routes kind).get? name = none
    ↔ (r.routes kind).get? name = none ∧ ¬ (x.kind = kind ∧ x.name = name)
  := by
  constructor
  · intro hnone
    have hold : (r.routes kind).get? name = none := by
      rw [Option.eq_none_iff_forall_ne_some] at hnone ⊢
      intro handler hsome
      apply hnone handler
      rw [get?_register_eq_some_iff]
      left
      apply hsome
    use hold
    rintro ⟨rfl, rfl⟩
    have hsome : ((r.register x).routes x.kind).get? x.name = some x.handler := by
      rw [get?_register_eq_some_iff]
      right
      exact ⟨rfl, accepts_iff.mpr ⟨hname, hold⟩⟩
    rw [hnone] at hsome
    contradiction
  · rintro ⟨hold, hother⟩
    rw [Option.eq_none_iff_forall_ne_some]
    intro handler hsome
    rcases (r.get?_register_eq_some_iff x).mp hsome with hsome | ⟨rfl, -⟩
    · rw [hold] at hsome
      contradiction
    · apply hother ⟨rfl, rfl⟩

/-! ### Routes that were accepted -/

/-- A route was accepted when the routes were added one after the other. -/
def Accepted (start : Router ν) (routes : List (Route ν)) (x : Route ν) : Prop :=
  ∃ before after, routes = before ++ x :: after ∧ (start.registerAll before).Accepts x

theorem not_accepted_nil (start : Router ν) (x : Route ν) :
  ¬ Accepted start [] x
  := by
  rintro ⟨before, after, hroutes, -⟩
  simp at hroutes

/-- A route was accepted before the last one was added, or is the last one. -/
theorem accepted_concat_iff {start : Router ν} {routes : List (Route ν)} {x y : Route ν} :
  Accepted start (routes ++ [x]) y
    ↔ Accepted start routes y ∨ x = y ∧ (start.registerAll routes).Accepts x
  := by
  constructor
  · rintro ⟨before, after, hroutes, hy⟩
    cases after using List.reverseRecOn with
    | nil =>
      obtain ⟨rfl, hxy⟩ := List.append_inj' hroutes rfl
      obtain rfl := List.singleton_inj.mp hxy
      right
      exact ⟨rfl, hy⟩
    | append_singleton after z =>
      rw [← List.cons_append, ← List.append_assoc] at hroutes
      obtain ⟨rfl, -⟩ := List.append_inj' hroutes rfl
      left
      exact ⟨before, after, rfl, hy⟩
  · rintro (⟨before, after, rfl, hy⟩ | ⟨rfl, hx⟩)
    · use before, after ++ [x]
      simp [hy]
    · use routes, []

/-- The tables hold the routes that were accepted. -/
theorem get?_registerAll_eq_some_iff {start : Router ν}
    (hstart : ∀ kind, start.routes kind = .empty) {routes : List (Route ν)} {kind : RouteKind}
    {name : String} {handler : kind.Input → Conduct ν} :
  ((start.registerAll routes).routes kind).get? name = some handler
    ↔ Accepted start routes ⟨kind, name, handler⟩
  := by
  induction routes using List.reverseRecOn with
  | nil =>
    rw [registerAll, List.foldl_nil, hstart]
    exact iff_of_false (by rintro ⟨⟩) (not_accepted_nil start _)
  | append_singleton routes x ih =>
    rw [registerAll_concat, get?_register_eq_some_iff, accepted_concat_iff, ih]

/-- There is no handler under a name that no accepted route has. -/
theorem get?_registerAll_of_not_accepted {start : Router ν}
    (hstart : ∀ kind, start.routes kind = .empty) {routes : List (Route ν)} {kind : RouteKind}
    {name : String} (h : ∀ x, Accepted start routes x → x.kind = kind → x.name ≠ name) :
  ((start.registerAll routes).routes kind).get? name = none
  := by
  rw [Option.eq_none_iff_forall_ne_some]
  intro handler hsome
  apply h _ ((get?_registerAll_eq_some_iff hstart).mp hsome) rfl rfl

/-- A valid name has a route of a kind as soon as one was tried to be added, accepted or not. -/
theorem get?_registerAll_eq_none_iff {start : Router ν}
    (hstart : ∀ kind, start.routes kind = .empty) {routes : List (Route ν)} {kind : RouteKind}
    {name : String} (hname : ':' ∉ name.toList) :
  ((start.registerAll routes).routes kind).get? name = none
    ↔ ∀ x ∈ routes, x.kind = kind → x.name ≠ name
  := by
  induction routes using List.reverseRecOn with
  | nil =>
    rw [registerAll, List.foldl_nil, hstart]
    exact iff_of_true rfl (by rintro x ⟨⟩)
  | append_singleton routes x ih =>
    rw [registerAll_concat, get?_register_eq_none_iff _ _ hname, ih]
    simp [or_imp, forall_and]

/-! ### Finding the handler -/

/-- A component runs the handler under the name in its identifier, with what was read of that. -/
theorem runs_component {r : Router ν} {payload : Json} {e : ComponentEnvelope} {i : Identifier}
    {handler : ComponentInput → Conduct ν}
    (hpayload : ComponentEnvelope.codec.decode .direct payload = .ok e)
    (hread : Identifier.read e.customId = .ok i)
    (hget : (r.componentRoutes e.kind).get? i.name = some handler) :
  r.Runs Event.componentTag payload
    ⟨s!"{(RouteKind.ofComponent e.kind).mark}:{i.name}", .fresh e.id e.token .component,
      handler ⟨e, i⟩⟩
  := by
  apply runs_of_run
  rw [decision_component hpayload, decideComponent, hread]
  dsimp only
  rw [hget]

/-- A button runs the handler among those of buttons. -/
theorem runs_button {r : Router ν} {payload : Json} {e : ComponentEnvelope} {i : Identifier}
    {handler : ComponentInput → Conduct ν}
    (hpayload : ComponentEnvelope.codec.decode .direct payload = .ok e) (hkind : e.kind = .button)
    (hread : Identifier.read e.customId = .ok i) (hget : r.buttons.get? i.name = some handler) :
  r.Runs Event.componentTag payload
    ⟨s!"button:{i.name}", .fresh e.id e.token .component, handler ⟨e, i⟩⟩
  := by
  rw [← r.componentRoutes_button, ← hkind] at hget
  have hruns := runs_component hpayload hread hget
  rw [hkind] at hruns
  apply hruns

/-- Menus of all kinds share their routes. -/
theorem runs_selectMenu {r : Router ν} {payload : Json} {e : ComponentEnvelope} {i : Identifier}
    {handler : ComponentInput → Conduct ν}
    (hpayload : ComponentEnvelope.codec.decode .direct payload = .ok e) (hkind : e.kind ≠ .button)
    (hread : Identifier.read e.customId = .ok i) (hget : r.selectMenus.get? i.name = some handler) :
  r.Runs Event.componentTag payload
    ⟨s!"select_menu:{i.name}", .fresh e.id e.token .component, handler ⟨e, i⟩⟩
  := by
  rw [← r.componentRoutes_of_ne hkind] at hget
  have hruns := runs_component hpayload hread hget
  rw [RouteKind.ofComponent_of_ne hkind] at hruns
  apply hruns

/-- A form runs the handler under the name in its identifier, with what was read of that. -/
theorem runs_modal {r : Router ν} {payload : Json} {e : ModalEnvelope} {i : Identifier}
    {handler : ModalInput → Conduct ν}
    (hpayload : ModalEnvelope.codec.decode .direct payload = .ok e)
    (hread : Identifier.read e.customId = .ok i) (hget : r.modals.get? i.name = some handler) :
  r.Runs Event.modalTag payload
    ⟨s!"modal:{i.name}", .fresh e.id e.token .modal, handler ⟨e, i⟩⟩
  := by
  apply runs_of_run
  rw [decision_modal hpayload, decideModal, hread]
  dsimp only
  rw [hget]
  rfl

/-- A component is ignored if its identifier names no handler. -/
theorem ignores_component {r : Router ν} {payload : Json} {e : ComponentEnvelope}
    (hpayload : ComponentEnvelope.codec.decode .direct payload = .ok e)
    (h : ∀ i, Identifier.read e.customId = .ok i →
      (r.componentRoutes e.kind).get? i.name = none) :
  r.Ignores Event.componentTag payload
  := by
  apply ignores_of_pass
  rw [decision_component hpayload, decideComponent]
  cases hread : Identifier.read e.customId with
  | error error => rfl
  | ok i =>
    dsimp only
    rw [h i hread]

/-- A form is ignored if its identifier names no handler. -/
theorem ignores_modal {r : Router ν} {payload : Json} {e : ModalEnvelope}
    (hpayload : ModalEnvelope.codec.decode .direct payload = .ok e)
    (h : ∀ i, Identifier.read e.customId = .ok i → r.modals.get? i.name = none) :
  r.Ignores Event.modalTag payload
  := by
  apply ignores_of_pass
  rw [decision_modal hpayload, decideModal]
  cases hread : Identifier.read e.customId with
  | error error => rfl
  | ok i =>
    dsimp only
    rw [h i hread]

/-- Routes of whatever names are added to a router without any.  A route is accepted just when
its name is free of the delimiter and no route of its kind and name was tried before; a refused
route changes nothing, and an accepted one no table of another kind.

An identifier that is written for the name of an accepted route and any data comes back to its
handler: the event of a component, or of a form, with this identifier runs this handler and no
other, with the name and the data it was written for.  The event of an identifier that does not
read, or reads as a name for which no route of the addressed kind was accepted, is ignored. -/
theorem identifier_comes_back (title : String) (catalogue : Catalogue (CommandInput → Conduct ν))
    (routes : List (Route ν)) :
  let start : Router ν := { named title with catalogue := catalogue }
  let r := start.registerAll routes
  (∀ x, r.Accepts x ↔
      ':' ∉ x.name.toList ∧ ∀ earlier ∈ routes, earlier.kind = x.kind → earlier.name ≠ x.name)
    ∧ (∀ x, ¬ r.Accepts x → r.register x = r)
    ∧ (∀ x kind, kind ≠ x.kind → (r.register x).routes kind = r.routes kind)
    ∧ (∀ kind name handler handler', Accepted start routes ⟨kind, name, handler⟩ →
        Accepted start routes ⟨kind, name, handler'⟩ → handler = handler')
    ∧ (∀ name data text, data.IsIntegral → data.HasDistinctKeys →
        Identifier.encode name (some data) = .ok text →
        (∀ handler payload e, Accepted start routes ⟨.button, name, handler⟩ →
            ComponentEnvelope.codec.decode .direct payload = .ok e → e.kind = .button →
            e.customId = text →
            r.Runs Event.componentTag payload ⟨s!"button:{name}",
              .fresh e.id e.token .component, handler ⟨e, ⟨name, data⟩⟩⟩)
          ∧ (∀ handler payload e, Accepted start routes ⟨.selectMenu, name, handler⟩ →
            ComponentEnvelope.codec.decode .direct payload = .ok e → e.kind ≠ .button →
            e.customId = text →
            r.Runs Event.componentTag payload ⟨s!"select_menu:{name}",
              .fresh e.id e.token .component, handler ⟨e, ⟨name, data⟩⟩⟩)
          ∧ (∀ handler payload e, Accepted start routes ⟨.modal, name, handler⟩ →
            ModalEnvelope.codec.decode .direct payload = .ok e → e.customId = text →
            r.Runs Event.modalTag payload ⟨s!"modal:{name}",
              .fresh e.id e.token .modal, handler ⟨e, ⟨name, data⟩⟩⟩))
    ∧ (∀ payload e, ComponentEnvelope.codec.decode .direct payload = .ok e →
        (∀ i, Identifier.read e.customId = .ok i → ∀ x, Accepted start routes x →
          x.kind = RouteKind.ofComponent e.kind → x.name ≠ i.name) →
        r.Ignores Event.componentTag payload)
    ∧ (∀ payload e, ModalEnvelope.codec.decode .direct payload = .ok e →
        (∀ i, Identifier.read e.customId = .ok i → ∀ x, Accepted start routes x →
          x.kind = .modal → x.name ≠ i.name) →
        r.Ignores Event.modalTag payload)
  := by
  intro start r
  have hstart : ∀ kind, start.routes kind = .empty := routes_named title catalogue
  refine ⟨?accepts, ?refused, ?others, ?unique, ?issued, ?foreignComponent, ?foreignModal⟩
  case accepts =>
    intro x
    rw [accepts_iff]
    apply and_congr_right
    apply get?_registerAll_eq_none_iff hstart
  case refused =>
    intro x
    apply register_of_not_accepts
  case others =>
    intro x kind
    apply routes_register_of_ne
  case unique =>
    intro kind name handler handler' h h'
    rw [← get?_registerAll_eq_some_iff hstart] at h h'
    rw [h] at h'
    apply Option.some.inj h'
  case issued =>
    intro name data text hint hkeys hencode
    have hread := Identifier.read_of_encode_some hint hkeys hencode
    refine ⟨?ofButton, ?ofSelectMenu, ?ofModal⟩
    case ofButton =>
      rintro handler payload e haccepted hpayload hkind rfl
      apply runs_button hpayload hkind hread
      apply (get?_registerAll_eq_some_iff hstart).mpr haccepted
    case ofSelectMenu =>
      rintro handler payload e haccepted hpayload hkind rfl
      apply runs_selectMenu hpayload hkind hread
      apply (get?_registerAll_eq_some_iff hstart).mpr haccepted
    case ofModal =>
      rintro handler payload e haccepted hpayload rfl
      apply runs_modal hpayload hread
      apply (get?_registerAll_eq_some_iff hstart).mpr haccepted
  case foreignComponent =>
    intro payload e hpayload hforeign
    apply ignores_component hpayload
    intro i hread
    apply get?_componentRoutes_eq_none
    apply get?_registerAll_of_not_accepted hstart (hforeign i hread)
  case foreignModal =>
    intro payload e hpayload hforeign
    apply ignores_modal hpayload
    intro i hread
    apply get?_registerAll_of_not_accepted hstart (hforeign i hread)

/-- One name in all three tables, a second button of that name and a name with a colon, which are
refused.  A selection from a menu runs the handler of menus with the data it was made for. -/
theorem identifier_comes_back_shared_name :
  let told (table : String) (input : ComponentInput) : Conduct (String × Json) :=
    .giving (.note (table, input.identifier.data) (.finish .success))
  let button (name table : String) : Route (String × Json) := ⟨.button, name, told table⟩
  let menu (name table : String) : Route (String × Json) := ⟨.selectMenu, name, told table⟩
  let form : Route (String × Json) := ⟨.modal, "go", fun _ => .giving (.finish .success)⟩
  let start : Router (String × Json) := { named "router" with catalogue := .empty }
  let r := start.registerAll [button "go" "first", menu "go" "menu", button "go" "second",
    menu "g:o" "colon", form]
  let data := Json.array [.int ⟨1, by decide, by decide⟩, .string ":"]
  let payload := Json.object [("id", .string "1"), ("token", .string "t"),
    ("channelId", .string "c"), ("messageId", .string "m"),
    ("componentKind", .string "UserSelect"), ("customId", .string "0:go:[1,\":\"]")]
  Identifier.encode "go" (some data) = .ok "0:go:[1,\":\"]"
    ∧ ¬ r.Accepts (button "go" "third")
    ∧ ∀ (p : Platform) (past : List Call),
        r.dispatch p past Event.componentTag payload = ⟨some ⟨1, []⟩, [.note ("menu", data)]⟩
  := by
  intro told button menu form start r data payload
  have hencode : Identifier.encode "go" (some data) = .ok "0:go:[1,\":\"]" := by decide
  obtain ⟨e, hpayload⟩ : ∃ e, ComponentEnvelope.codec.decode .direct payload = .ok e := ⟨_, rfl⟩
  obtain ⟨haccepts, -, -, -, hissued, -, -⟩ := identifier_comes_back "router" .empty
    [button "go" "first", menu "go" "menu", button "go" "second", menu "g:o" "colon", form]
  obtain ⟨-, hmenu, -⟩ := hissued "go" data "0:go:[1,\":\"]" (by decide) (by decide) hencode
  have haccepted : Accepted start [button "go" "first", menu "go" "menu", button "go" "second",
      menu "g:o" "colon", form] (menu "go" "menu") :=
    ⟨[button "go" "first"], _, rfl, _, rfl⟩
  obtain rfl := Except.ok.inj hpayload
  obtain ⟨-, hdispatch⟩ := hmenu (told "menu") payload _ haccepted rfl (by decide) rfl
  refine ⟨hencode, ?_, hdispatch⟩
  intro hthird
  obtain ⟨-, hnone⟩ := (haccepts _).mp hthird
  apply hnone (button "go" "first") List.mem_cons_self rfl rfl

end Router

end InteractionRouting
