import InteractionRouting.Envelope

/-!
# Manifests

What is registered with the platform: every command and every group of commands, flattened
into records that refer to each other by name.
-/

namespace InteractionRouting

open Wire Record

namespace Manifest

/-- A command as it is registered. -/
structure Command where
  name : String
  description : String
  kind : CommandKind
  /-- The group at the top, if the command is in a group. -/
  group : Option String
  /-- The group inside that one, if the command is in such a group. -/
  subGroup : Option String
  parameters : List Parameter.Named

namespace Command

def fields : Record Command Command :=
  Command.mk <$> required "name" .text name
    <*> required "description" .text description
    <*> required "kind" CommandKind.naming.codec kind
    <*> elided "group" .text group
    <*> elided "subGroup" .text subGroup
    <*> elidedList "options" Parameter.Named.codec parameters

def codec : Codec Command := fields.codec "FlatCommand"

end Command

/-- A group inside another, as it is registered. -/
structure SubGroup where
  name : String
  description : String

namespace SubGroup

def fields : Record SubGroup SubGroup :=
  SubGroup.mk <$> required "name" .text name <*> required "description" .text description

def codec : Codec SubGroup := fields.codec "FlatSubGroup"

end SubGroup

/-- A group at the top, as it is registered. -/
structure Group where
  name : String
  description : String
  subGroups : List SubGroup

namespace Group

def fields : Record Group Group :=
  Group.mk <$> required "name" .text name
    <*> required "description" .text description
    <*> defaulted "subGroups" (.list SubGroup.codec) [] subGroups

def codec : Codec Group := fields.codec "FlatGroup"

end Group

/-- Adds the sub-groups whose names are new. -/
def addSubGroups (known : List SubGroup) (more : List SubGroup) : List SubGroup :=
  more.foldl
    (fun known s => if known.any (·.name == s.name) then known else known ++ [s]) known

/-- Adds a group.  A group of a known name only brings its sub-groups along; the first
description of a name stays. -/
def addGroup : List Group → Group → List Group
  | [], g => [g]
  | known :: rest, g =>
    if known.name = g.name then
      { known with subGroups := addSubGroups known.subGroups g.subGroups } :: rest
    else known :: addGroup rest g

end Manifest

/-- Everything that is registered with the platform. -/
structure Manifest where
  commands : List Manifest.Command
  groups : List Manifest.Group

namespace Manifest

def fields : Record Manifest Manifest :=
  Manifest.mk <$> required "commands" (.list Command.codec) commands
    <*> required "groups" (.list Group.codec) groups

def codec : Codec Manifest := fields.codec "Manifest"

/-- Nothing to register. -/
def empty : Manifest := ⟨[], []⟩

/-- All of one manifest followed by all of another. -/
def append (m n : Manifest) : Manifest where
  commands := m.commands ++ n.commands
  groups := n.groups.foldl addGroup m.groups

end Manifest

end InteractionRouting
