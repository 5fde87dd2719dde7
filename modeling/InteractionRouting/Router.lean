import InteractionRouting.Catalogue
import InteractionRouting.Identifier
import InteractionRouting.Outcome

/-!
# Routers

A router turns the events of interactions into runs of handlers: commands by the catalogue,
components and forms by the name in their identifier.  Events of any other tag are none of
its business, and neither are interactions it has no handler for.
-/

namespace InteractionRouting

/-- What the handler of a command is given. -/
structure CommandInput where
  envelope : CommandEnvelope
  target : Option Target
  arguments : Arguments

/-- What the handler of a component is given. -/
structure ComponentInput where
  envelope : ComponentEnvelope
  identifier : Identifier

/-- What the handler of a form is given. -/
structure ModalInput where
  envelope : ModalEnvelope
  identifier : Identifier

/-- The kinds of routes by name. -/
inductive RouteKind where
  | button
  | selectMenu
  | modal
deriving DecidableEq

namespace RouteKind

/-- The name in messages. -/
def label : RouteKind → String
  | button => "button"
  | selectMenu => "select menu"
  | modal => "modal"

/-- The name in reports. -/
def mark : RouteKind → String
  | button => "button"
  | selectMenu => "select_menu"
  | modal => "modal"

/-- The route of a component. -/
def ofComponent (k : ComponentKind) : RouteKind := if k.isSelectMenu then selectMenu else button

end RouteKind

/-- Why a route cannot be added. -/
inductive RouteError where
  /-- There is a route of that kind and name. -/
  | duplicate (kind : RouteKind) (name : String)
  /-- The name cannot be part of an identifier. -/
  | invalidName (name : String)
deriving DecidableEq

def RouteError.message : RouteError → String
  | duplicate kind name => s!"a {kind.label} handler named '{name}' is already registered"
  | invalidName name => s!"handler name '{name}' must not contain ':'"

/-- The handlers for interactions. -/
structure Router (ν : Type) where
  name : String
  catalogue : Catalogue (CommandInput → Conduct ν)
  buttons : Table (ComponentInput → Conduct ν)
  selectMenus : Table (ComponentInput → Conduct ν)
  modals : Table (ModalInput → Conduct ν)

namespace Router

variable {ν : Type}

/-- A router without handlers. -/
def named (name : String) : Router ν := ⟨name, .empty, .empty, .empty, .empty⟩

/-- A router of no particular name. -/
def unnamed : Router ν := named "router"

/-! ### Adding routes -/

/-- Adds a command. -/
def addCommand (r : Router ν) (c : Command (CommandInput → Conduct ν)) :
    Except DuplicateCommand (Router ν) :=
  (r.catalogue.add c).map fun catalogue => { r with catalogue := catalogue }

/-- Adds a named route to a table. -/
def addRoute {η : Type} (kind : RouteKind) (routes : Table η) (name : String) (handler : η) :
    Except RouteError (Table η) :=
  if name.toList.contains ':' then .error (.invalidName name)
  else if routes.contains name then .error (.duplicate kind name)
  else .ok (routes.insert name handler)

def addButton (r : Router ν) (name : String) (handler : ComponentInput → Conduct ν) :
    Except RouteError (Router ν) :=
  (addRoute .button r.buttons name handler).map fun routes => { r with buttons := routes }

def addSelectMenu (r : Router ν) (name : String) (handler : ComponentInput → Conduct ν) :
    Except RouteError (Router ν) :=
  (addRoute .selectMenu r.selectMenus name handler).map fun routes =>
    { r with selectMenus := routes }

def addModal (r : Router ν) (name : String) (handler : ModalInput → Conduct ν) :
    Except RouteError (Router ν) :=
  (addRoute .modal r.modals name handler).map fun routes => { r with modals := routes }

/-- What is registered of a router. -/
def compile (r : Router ν) : Manifest := r.catalogue.compile

/-! ### Routing -/

/-- What becomes of an event. -/
inductive Decision (ν : Type) where
  /-- The event is none of the router's business. -/
  | pass
  /-- The event fails before a handler is run. -/
  | refuse (subscriber error : String)
  /-- A handler is run. -/
  | run (subscriber : String) (interaction : Interaction) (conduct : Conduct ν)

/-- Reads the payload of an event. -/
def readPayload {α : Type} (c : Wire.Codec α) (payload : Json) : Except String α :=
  (c.decode .direct payload).mapError fun m => s!"malformed payload: {m.message}"

/-- Decides on a command. -/
def decideCommand (r : Router ν) (e : CommandEnvelope) : Decision ν :=
  match r.catalogue.find? e with
  | none => .pass
  | some c =>
    let subscriber := s!"command:{c.path}"
    match Arguments.resolve c.signature e with
    | .error error => .refuse subscriber error.message
    | .ok arguments =>
      match e.target with
      | .error error => .refuse subscriber error.message
      | .ok target =>
        .run subscriber (.fresh e.id e.token .command) (c.handler ⟨e, target, arguments⟩)

/-- The routes of a component. -/
def componentRoutes (r : Router ν) (k : ComponentKind) : Table (ComponentInput → Conduct ν) :=
  if k.isSelectMenu then r.selectMenus else r.buttons

/-- Decides on a component.  An identifier that does not read was made by somebody else. -/
def decideComponent (r : Router ν) (e : ComponentEnvelope) : Decision ν :=
  match Identifier.read e.customId with
  | .error _ => .pass
  | .ok identifier =>
    match (r.componentRoutes e.kind).get? identifier.name with
    | none => .pass
    | some handler =>
      .run s!"{(RouteKind.ofComponent e.kind).mark}:{identifier.name}"
        (.fresh e.id e.token .component) (handler ⟨e, identifier⟩)

/-- Decides on a submitted form. -/
def decideModal (r : Router ν) (e : ModalEnvelope) : Decision ν :=
  match Identifier.read e.customId with
  | .error _ => .pass
  | .ok identifier =>
    match r.modals.get? identifier.name with
    | none => .pass
    | some handler =>
      .run s!"{RouteKind.modal.mark}:{identifier.name}" (.fresh e.id e.token .modal)
        (handler ⟨e, identifier⟩)

/-- Decides on an event. -/
def decision (r : Router ν) (tag : String) (payload : Json) : Decision ν :=
  if tag = Event.commandTag then
    match readPayload CommandEnvelope.codec payload with
    | .error error => .refuse "command" error
    | .ok e => r.decideCommand e
  else if tag = Event.componentTag then
    match readPayload ComponentEnvelope.codec payload with
    | .error error => .refuse "component" error
    | .ok e => r.decideComponent e
  else if tag = Event.modalTag then
    match readPayload ModalEnvelope.codec payload with
    | .error error => .refuse "modal" error
    | .ok e => r.decideModal e
  else .pass

/-- Carries out a decision, after the platform calls made before. -/
def carryOut (r : Router ν) (p : Platform) (past : List Call) (tag : String) :
    Decision ν → Delivery ν
  | .pass => .none
  | .refuse subscriber error => .refused r.name tag subscriber error
  | .run subscriber interaction conduct =>
    let t := conduct.run p past interaction
    .ofRun r.name tag subscriber t.ending t.happenings

/-- Routes an event, after the platform calls made before. -/
def dispatch (r : Router ν) (p : Platform) (past : List Call) (tag : String) (payload : Json) :
    Delivery ν :=
  r.carryOut p past tag (r.decision tag payload)

def describe (r : Router ν) : String :=
  Text.shown "InteractionRouter" [("name", Text.quote r.name),
    ("commands", toString r.catalogue.commands.length), ("buttons", toString r.buttons.size),
    ("select_menus", toString r.selectMenus.size), ("modals", toString r.modals.size)]

end Router

end InteractionRouting
