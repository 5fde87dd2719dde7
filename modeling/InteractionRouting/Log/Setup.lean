import InteractionRouting.FileSystem
import InteractionRouting.Log.Filter

/-!
# Setting up logging

What a configuration of logging comes to: which entries are let through, where they are
written to, and what they show.
-/

namespace InteractionRouting.Log

/-- Where entries are written to. -/
inductive Sink where
  | stdout
  | stderr
  | file (folder : Place) (name : String) (rotation : Config.Rotation)

namespace Sink

/-- The name of a log file that is given none. -/
def fileName : String := "switchboard.log"

/-- The folder of the file at a path that is seen from a folder.  A path without steps leads to no
file, and the folder is the one it is seen from. -/
def folderOf (here : Place) (path : String) : Place :=
  if Path.steps path = [] then here else (here.start path).follow (Path.before path)

/-- The sink of a configuration, for a process that works in a folder.  Without a path there is no
file, and the standard output is used instead. -/
def ofConfig (here : Place) (c : Config.Logging) : Sink :=
  match c.output, c.filePath with
  | .stdout, _ => stdout
  | .stderr, _ => stderr
  | .file, none => stdout
  | .file, some path =>
    file (folderOf here path) ((Path.name? path).getD fileName) c.rotation

/-- What it is called, as seen from a folder.  A file that is not inside it has no name there. -/
def name? (here : Place) : Sink → Option String
  | stdout => some "stdout"
  | stderr => some "stderr"
  | file folder name _ =>
    if here.names.isPrefixOf folder.names then
      some ("/".intercalate (folder.names.drop here.names.length ++ [name]))
    else none

/-- The number of dashes in the date that a file's name ends in. -/
def dashes : Sink → Nat
  | stdout | stderr => 0
  | file _ _ .never => 0
  | file _ _ .daily => 2
  | file _ _ .hourly => 3

end Sink

/-- What of a configuration cannot be had. -/
inductive Warning where
  /-- Entries should go to a file, and there is none. -/
  | noFile
  /-- Entries cannot be written as JSON. -/
  | noJson
deriving DecidableEq

/-- What a configuration comes to. -/
structure Setup where
  filter : Filter
  sink : Sink
  warnings : List Warning
  /-- The events in the life of a span that are logged. -/
  spans : List String
  threadIds : Bool
  fileLocation : Bool

namespace Setup

/-- The directive of a filter for a module. -/
def moduleDirective (entry : String × Config.Level) : String := s!"{entry.1}={entry.2.name}"

/-- The directives of a configuration in the order of their modules, before others. -/
def directives (c : Config.Logging) (others : List String) : List String :=
  (c.filters.entries.mergeSort fun a b => decide (a.1 ≤ b.1)).map moduleDirective ++ others

/-- The filter of a configuration.  Directives that are given from outside take the place of
the configured level if all of them read; what is configured for modules and `others` are
added, as far as they read. -/
def filterOf (c : Config.Logging) (outside : Option String) (others : List String) : Filter :=
  let level := Filter.ofDirectives [.forAll (.ofLevel c.level)]
  ((directives c others).filterMap Directive.read?).foldl Filter.add
    ((outside.bind Filter.read?).getD level)

/-- The events of spans that are logged. -/
def spanNames (s : Config.SpanEvents) : List String :=
  [("new", s.new), ("enter", s.enter), ("exit", s.exit), ("close", s.close)].filterMap fun e =>
    if e.2 then some e.1 else none

def warningsOf (c : Config.Logging) : List Warning :=
  (if c.output = .file ∧ c.filePath = none then [.noFile] else []) ++
    if c.format = .json then [.noJson] else []

/-- What a configuration comes to for a process that works in a folder, with the directives from
outside and others. -/
def ofConfig (here : Place) (c : Config.Logging) (outside : Option String)
    (others : List String) : Setup where
  filter := filterOf c outside others
  sink := .ofConfig here c
  warnings := warningsOf c
  spans := spanNames c.spanEvents
  threadIds := c.threadIds
  fileLocation := c.fileLocation || c.format = .pretty

/-- Whether an event that is only a message is let through. -/
def admitsMessage (s : Setup) (target : String) (l : Config.Level) : Bool :=
  s.filter.admitsEvent target ["message"] l

/-- The target of the warnings. -/
def warningTarget : String := "switchboard_runtime::logging"

/-- The warnings that are let through. -/
def reported (s : Setup) : List Warning :=
  if s.admitsMessage warningTarget .warn then s.warnings else []

/-- The events in the life of a span without fields that are logged. -/
def spanEvents (s : Setup) (target name : String) (l : Config.Level) : List String :=
  if s.filter.admitsSpan target name [] l then s.spans else []

end Setup

end InteractionRouting.Log
