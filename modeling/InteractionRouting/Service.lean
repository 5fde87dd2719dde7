import InteractionRouting.Config.Loader
import InteractionRouting.EventLoop

/-!
# Services

A service brings routers and fanouts together with a platform.  Its routers have no command
in common.  When it starts it registers their commands, and once it has started it handles
events.
-/

namespace InteractionRouting

/-- The most places a queue of events can have. -/
def queueLimit : Nat := 18446744073709551615 / 8

/-- Whether there can be a queue of so many places. -/
def isQueueSize (n : Nat) : Bool := decide (0 < n) && decide (n ≤ queueLimit)

/-- Routers and fanouts, brought together with a platform. -/
structure Service (ν : Type) where
  config : Config
  platform : Platform
  registrar : Option Registrar
  exchange : Exchange ν
  /-- The routers whose commands are registered. -/
  routers : List (Router ν)
  started : Bool

namespace Service

variable {ν : Type}

/-- The number of places in the queue of a configuration: at least one. -/
def queueSize (c : Config) : Nat := max c.dispatch.eventBuffer.toNat 1

/-- A service with nothing in it.  When its queue cannot be had there is a panic, and no service. -/
def open? (c : Config) (p : Platform) (registrar : Option Registrar) : Option (Service ν) :=
  if isQueueSize (queueSize c) then some ⟨c, p, registrar, .empty, [], false⟩ else none

/-! ### Setting up -/

/-- Why a service cannot be set up. -/
inductive SetupError where
  | noPlatform
  | config (error : Config.LoadError)
deriving DecidableEq

def SetupError.message : SetupError → String
  | noPlatform => "No interaction API configured"
  | config error => error.message

/-- What a service is set up from. -/
structure Setup where
  platform : Option Platform
  registrar : Option Registrar
  /-- The configuration, when it is not to be loaded. -/
  config : Option Config
  loader : Config.Loader

/-- What comes of setting up a service. -/
inductive Outset (ν : Type) where
  | opened (service : Service ν)
  | failed (error : SetupError)
  /-- The queue of events cannot be had, which is a panic. -/
  | panicked

/-- The configuration to set up a service with: the one that is given, or else one that is
loaded. -/
def Setup.configuration (s : Setup) (around : Config.Surroundings) :
    Except Config.LoadError Config :=
  match s.config with
  | some c => .ok c
  | none => s.loader.load around

/-- Sets up a service. -/
def Setup.build (s : Setup) (around : Config.Surroundings) : Outset ν :=
  match s.platform with
  | none => .failed .noPlatform
  | some p =>
    match s.configuration around with
    | .error e => .failed (.config e)
    | .ok c =>
      match open? c p s.registrar with
      | some service => .opened service
      | none => .panicked

/-! ### Routers and fanouts -/

/-- Why a router is not taken in. -/
structure ClashError where
  clash : DuplicateCommand
deriving DecidableEq

def ClashError.message (e : ClashError) : String :=
  s!"Command registered by more than one router: {e.clash.message}"

/-- The first command of a router that one of the service's routers has, too. -/
def clash? (s : Service ν) (r : Router ν) : Option (Command (CommandInput → Conduct ν)) :=
  r.catalogue.commands.find? fun c => s.routers.any fun known => known.catalogue.contains c

/-- Takes in a router, unless one of its commands is there already. -/
def addRouter (s : Service ν) (r : Router ν) : Except ClashError (Service ν) :=
  match s.clash? r with
  | some c => .error ⟨⟨c.path⟩⟩
  | none => .ok { s with routers := s.routers ++ [r], exchange := s.exchange.add (.router r) }

/-- Takes in a fanout. -/
def addFanout (s : Service ν) (f : Fanout ν) : Service ν :=
  { s with exchange := s.exchange.add (.fanout f) }

def setRegistrar (s : Service ν) (r : Registrar) : Service ν := { s with registrar := some r }

def setReporter (s : Service ν) (reporter : Failure → Reaction ν) : Service ν :=
  { s with exchange := { s.exchange with reporter := reporter } }

/-- What is registered of all routers. -/
def compile (s : Service ν) : Manifest :=
  s.routers.foldl (fun m r => m.append r.compile) .empty

/-! ### Starting -/

/-- The commands were not registered. -/
structure RegistrationError where
  cause : PlatformError
deriving DecidableEq

def RegistrationError.message (e : RegistrationError) : String :=
  s!"Command registration failed: {e.cause.message}"

/-- What came of starting a service. -/
structure Started (ν : Type) where
  service : Service ν
  result : Except RegistrationError Unit
  /-- The manifest that was handed to the registrar, if one was. -/
  manifest : Option Manifest

/-- Starts a service, after the manifests that were registered before: registers its
commands, if that is wanted and there is a registrar.  It starts only once. -/
def start (s : Service ν) (past : List Manifest) : Started ν :=
  if s.started then ⟨s, .ok (), none⟩
  else
    match if s.config.registration.onStart then s.registrar else none with
    | none => ⟨{ s with started := true }, .ok (), none⟩
    | some registrar =>
      let m := s.compile
      match registrar.refusal past m with
      | some e => ⟨s, .error ⟨e⟩, some m⟩
      | none => ⟨{ s with started := true }, .ok (), some m⟩

/-! ### Running -/

/-- The loop in which a service handles events. -/
def loop (s : Service ν) : EventLoop ν := ⟨s.exchange, s.platform, s.config.dispatch.spawnPerEvent⟩

/-- What came of running a service: where its loop stands in the end, unless the service did
not start. -/
structure Run (ν : Type) where
  started : Started ν
  loop : Option (EventLoop.State ν)

/-- Runs a service that handles events in order until all are handled, after what happened
before; or one that is shut down before the first. -/
def run (s : Service ν) (events : List Event) (shutDown : Bool) (past : List (Happening ν)) :
    Run ν :=
  let started := s.start (Happening.manifests past)
  let past := past ++ started.manifest.toList.map .registration
  match started.result with
  | .error _ => ⟨started, none⟩
  | .ok () =>
    let l := started.service.loop
    ⟨started, some (if shutDown then l.runShutDown events past else l.run events past)⟩

end Service

end InteractionRouting
