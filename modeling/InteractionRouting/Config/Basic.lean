import InteractionRouting.Text.Basic
import InteractionRouting.Wire.Record

/-!
# Configurations

What can be configured: how to log, how to handle events, and whether commands are
registered.  Every setting has a default, so that an empty document is a configuration.
-/

namespace InteractionRouting

open Wire Record

namespace Config

/-- How severe a log entry has to be to be written. -/
inductive Level where
  | trace
  | debug
  | info
  | warn
  | error
deriving DecidableEq

namespace Level

def name : Level → String
  | trace => "trace"
  | debug => "debug"
  | info => "info"
  | warn => "warn"
  | error => "error"

def naming : Naming Level where
  names := [trace, debug, info, warn, error].map fun l => (l.name, l)
  fallback := none
  name := name

end Level

/-- What log entries look like. -/
inductive Format where
  | compact
  | full
  | pretty
  | json
deriving DecidableEq

namespace Format

def name : Format → String
  | compact => "compact"
  | full => "full"
  | pretty => "pretty"
  | json => "json"

def naming : Naming Format where
  names := [compact, full, pretty, json].map fun f => (f.name, f)
  fallback := none
  name := name

end Format

/-- Where log entries are written to. -/
inductive Output where
  | stdout
  | stderr
  | file
deriving DecidableEq

namespace Output

def name : Output → String
  | stdout => "stdout"
  | stderr => "stderr"
  | file => "file"

def naming : Naming Output where
  names := [stdout, stderr, file].map fun o => (o.name, o)
  fallback := none
  name := name

end Output

/-- When a new log file is begun. -/
inductive Rotation where
  | never
  | hourly
  | daily
deriving DecidableEq

namespace Rotation

def name : Rotation → String
  | never => "never"
  | hourly => "hourly"
  | daily => "daily"

def naming : Naming Rotation where
  names := [never, hourly, daily].map fun r => (r.name, r)
  fallback := none
  name := name

end Rotation

/-- Which events in the life of a span are logged. -/
structure SpanEvents where
  new : Bool
  enter : Bool
  exit : Bool
  close : Bool
deriving DecidableEq

namespace SpanEvents

/-- None of the events. -/
def standard : SpanEvents := ⟨false, false, false, false⟩

def fields : Record SpanEvents SpanEvents :=
  SpanEvents.mk <$> defaulted "new" .flag standard.new new
    <*> defaulted "enter" .flag standard.enter enter
    <*> defaulted "exit" .flag standard.exit exit
    <*> defaulted "close" .flag standard.close close

def codec : Codec SpanEvents := fields.codec "SpanEventConfig"

end SpanEvents

/-- How to log. -/
structure Logging where
  level : Level
  format : Format
  output : Output
  filePath : Option String
  rotation : Rotation
  threadIds : Bool
  /-- Whether an entry tells where in the program it was made. -/
  fileLocation : Bool
  spanEvents : SpanEvents
  /-- Levels of single modules. -/
  filters : Table Level

namespace Logging

/-- Entries of some weight, in short, to the standard output. -/
def standard : Logging where
  level := .info
  format := .compact
  output := .stdout
  filePath := none
  rotation := .never
  threadIds := false
  fileLocation := false
  spanEvents := .standard
  filters := .empty

def fields : Record Logging Logging :=
  Logging.mk <$> defaulted "level" Level.naming.codec standard.level level
    <*> defaulted "format" Format.naming.codec standard.format format
    <*> defaulted "output" Output.naming.codec standard.output output
    <*> optional "file_path" .path filePath
    <*> defaulted "rotation" Rotation.naming.codec standard.rotation rotation
    <*> defaulted "thread_ids" .flag standard.threadIds threadIds
    <*> defaulted "file_location" .flag standard.fileLocation fileLocation
    <*> defaulted "span_events" SpanEvents.codec standard.spanEvents spanEvents
    <*> defaulted "filters" (.table Level.naming.codec) standard.filters filters

def codec : Codec Logging := fields.codec "LoggingConfig"

end Logging

/-- How to handle events. -/
structure Dispatch where
  /-- The number of places in the queue of events. -/
  eventBuffer : UInt64
  /-- Whether each event is dispatched as a task of its own. -/
  spawnPerEvent : Bool
deriving DecidableEq

namespace Dispatch

def standard : Dispatch := ⟨256, true⟩

def fields : Record Dispatch Dispatch :=
  Dispatch.mk <$> defaulted "event_buffer" .size standard.eventBuffer eventBuffer
    <*> defaulted "spawn_per_event" .flag standard.spawnPerEvent spawnPerEvent

def codec : Codec Dispatch := fields.codec "DispatchConfig"

end Dispatch

/-- Whether commands are registered. -/
structure Registration where
  /-- Whether all commands are registered when the service starts. -/
  onStart : Bool
deriving DecidableEq

namespace Registration

def standard : Registration := ⟨true⟩

def fields : Record Registration Registration :=
  Registration.mk <$> defaulted "register_on_start" .flag standard.onStart onStart

def codec : Codec Registration := fields.codec "CommandSyncConfig"

end Registration

end Config

/-- A configuration. -/
structure Config where
  logging : Config.Logging
  dispatch : Config.Dispatch
  registration : Config.Registration

namespace Config

/-- The configuration in which nothing is set. -/
def standard : Config := ⟨.standard, .standard, .standard⟩

def fields : Record Config Config :=
  Config.mk <$> defaulted "logging" Logging.codec standard.logging logging
    <*> defaulted "dispatch" Dispatch.codec standard.dispatch dispatch
    <*> defaulted "commands" Registration.codec standard.registration registration

def codec : Codec Config := fields.codec "SwitchboardConfig"

/-- What is wrong with a configuration that reads. -/
inductive Violation where
  /-- Entries go to a file, and there is no file. -/
  | noFile
  /-- A filter is for a module without a name. -/
  | blankModule (module : String)
  /-- No event fits the queue. -/
  | noQueue
deriving DecidableEq

def Violation.message : Violation → String
  | noFile => "logging.file_path is required when logging.output is \"file\""
  | blankModule module =>
    s!"logging.filters contains an empty module name: {Text.quote module}"
  | noQueue => "dispatch.event_buffer must be greater than 0"

/-- What is wrong with the way to log, if anything is. -/
def Logging.violation? (l : Logging) : Option Violation :=
  if l.output = .file ∧ l.filePath = none then some .noFile
  else (l.filters.keys.find? Text.allBlank).map .blankModule

/-- What is wrong with a configuration, if anything is. -/
def violation? (c : Config) : Option Violation :=
  c.logging.violation?.or (if c.dispatch.eventBuffer = 0 then some .noQueue else none)

end Config

end InteractionRouting
