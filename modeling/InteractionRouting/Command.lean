import InteractionRouting.Argument
import InteractionRouting.Group

/-!
# Commands

A command has a name, a kind, a place among the groups, a signature and a handler.  It is
put together in a `Command.Draft`, which remembers the first rule that was broken.
-/

namespace InteractionRouting

/-- A command with a handler of type `η`. -/
structure Command (η : Type) where
  name : String
  description : String
  kind : CommandKind
  group : Option Group
  signature : Signature
  handler : η

namespace Command

variable {η : Type}

/-- What sets a command apart from every other: its name, the name of its group, and the
name of the group that one is in. -/
structure Key where
  name : String
  group : Option String
  parent : Option String
deriving DecidableEq

def key (c : Command η) : Key := ⟨c.name, c.group.map (·.name), c.group.bind (·.parentName?)⟩

/-- The name of a command after the names of its groups. -/
def path (c : Command η) : String :=
  match c.group with
  | some g => s!"{g.path} {c.name}"
  | none => c.name

/-- The command as it is registered. -/
def listing (c : Command η) : Manifest.Command where
  name := c.name
  description := c.description
  kind := c.kind
  group := c.group.map (·.topLevel.name)
  subGroup := c.group.bind fun g => g.parentName?.map fun _ => g.name
  parameters := c.signature.named

def describe (c : Command η) : String :=
  Text.shown "CommandDefinition" [("name", Text.quote c.name), ("kind", c.kind.name),
    ("group", Text.shownOption (c.group.map (·.describe))), ("options", toString c.signature.size)]

end Command

/-- Why a command cannot be put together. -/
inductive CommandError where
  /-- Two parameters have one name. -/
  | duplicateParameter (command parameter : String)
  /-- A command of a context menu takes no parameters. -/
  | parameterInMenu (command : String)
  /-- A command of a context menu is in no group. -/
  | groupInMenu (command : String)
deriving DecidableEq

def CommandError.message : CommandError → String
  | duplicateParameter command parameter =>
    s!"command '{command}' declares option '{parameter}' twice"
  | parameterInMenu command => s!"context command '{command}' cannot declare options"
  | groupInMenu command => s!"context command '{command}' cannot be placed in a group"

namespace Command

/-- A command that is being put together. -/
structure Draft where
  name : String
  description : String
  kind : CommandKind
  group : Option Group
  signature : Signature
  /-- The first rule that was broken, if one was. -/
  error : Option CommandError

namespace Draft

variable {η : Type}

/-- A command of a kind. -/
def start (kind : CommandKind) (name description : String) : Draft :=
  ⟨name, description, kind, none, .empty, none⟩

/-- A command of the chat. -/
def chat (name description : String) : Draft := start .chat name description

/-- A command of the menu of users. -/
def user (name : String) : Draft := start .user name ""

/-- A command of the menu of messages. -/
def message (name : String) : Draft := start .message name ""

/-- Remembers that a rule was broken, unless one was before. -/
def fail (d : Draft) (e : CommandError) : Draft := { d with error := d.error.or (some e) }

/-- Places the command in a group. -/
def inGroup (d : Draft) (g : Group) : Draft :=
  let d' := if d.kind = .chat then d else d.fail (.groupInMenu d.name)
  { d' with group := some g }

/-- Declares a parameter. -/
def parameter (d : Draft) (name : String) (p : Parameter) : Draft :=
  if d.kind = .chat then
    match d.signature.add? name p with
    | some s => { d with signature := s }
    | none => d.fail (.duplicateParameter d.name name)
  else d.fail (.parameterInMenu d.name)

/-- Finishes the command with its handler, unless a rule was broken. -/
def build (d : Draft) (handler : η) : Except CommandError (Command η) :=
  match d.error with
  | some e => .error e
  | none => .ok ⟨d.name, d.description, d.kind, d.group, d.signature, handler⟩

end Draft

end Command

end InteractionRouting
