import InteractionRouting.Parameter

/-!
# Envelopes

An envelope is what the platform says about one interaction: a command that was invoked, a
component that was used, or a form that was submitted.
-/

namespace InteractionRouting

open Wire Record

/-- Where a command is found: in the chat, or in the menu of a user or of a message. -/
inductive CommandKind where
  | chat
  | user
  | message
deriving DecidableEq

namespace CommandKind

def name : CommandKind → String
  | chat => "Chat"
  | user => "User"
  | message => "Message"

def naming : Naming CommandKind where
  names := [chat, user, message].map fun k => (k.name, k)
  fallback := none
  name := name

end CommandKind

/-- A value given for a parameter. -/
structure Supplied where
  name : String
  kind : Parameter.Kind
  value : Json

namespace Supplied

def fields : Record Supplied Supplied :=
  Supplied.mk <$> required "name" .text name
    <*> required "kind" Parameter.Kind.naming.codec kind
    <*> required "value" .any value

def codec : Codec Supplied := fields.codec "RawOption"

end Supplied

/-- A command that was invoked. -/
structure CommandEnvelope where
  id : String
  token : String
  guildId : Option String
  channelId : String
  member : Option Invoker
  kind : CommandKind
  name : String
  parentName : Option String
  parentParentName : Option String
  supplied : List Supplied
  targetId : Option String
  directory : Directory

namespace CommandEnvelope

def fields : Record CommandEnvelope CommandEnvelope :=
  CommandEnvelope.mk <$> required "id" .text id
    <*> required "token" .text token
    <*> optional "guildId" .text guildId
    <*> required "channelId" .text channelId
    <*> optional "member" Invoker.codec member
    <*> defaulted "kind" CommandKind.naming.codec .chat kind
    <*> required "name" .text name
    <*> optional "parentName" .text parentName
    <*> optional "parentParentName" .text parentParentName
    <*> defaulted "options" (.list Supplied.codec) [] supplied
    <*> optional "targetId" .text targetId
    <*> defaulted "dataMap" Directory.codec .empty directory

def codec : Codec CommandEnvelope := fields.codec "CommandEnvelope"

/-- A chat command outside any group, with no values and no entities. -/
def plain (id token channelId name : String) : CommandEnvelope where
  id := id
  token := token
  guildId := none
  channelId := channelId
  member := none
  kind := .chat
  name := name
  parentName := none
  parentParentName := none
  supplied := []
  targetId := none
  directory := .empty

/-- The first value given for a parameter. -/
def supplied? (e : CommandEnvelope) (name : String) : Option Supplied :=
  e.supplied.find? fun s => s.name == name

/-- The name of the command after the names of its groups, those that are given. -/
def qualifiedName (e : CommandEnvelope) : String :=
  " ".intercalate (e.parentParentName.toList ++ e.parentName.toList ++ [e.name])

end CommandEnvelope

/-- The kinds of components. -/
inductive ComponentKind where
  | button
  | stringSelect
  | userSelect
  | roleSelect
  | mentionableSelect
  | channelSelect
deriving DecidableEq

namespace ComponentKind

def name : ComponentKind → String
  | button => "Button"
  | stringSelect => "StringSelect"
  | userSelect => "UserSelect"
  | roleSelect => "RoleSelect"
  | mentionableSelect => "MentionableSelect"
  | channelSelect => "ChannelSelect"

def naming : Naming ComponentKind where
  names := [button, stringSelect, userSelect, roleSelect, mentionableSelect, channelSelect].map
    fun k => (k.name, k)
  fallback := none
  name := name

/-- Every kind but the button is a menu to select from. -/
def isSelectMenu (k : ComponentKind) : Bool := k ≠ button

/-- The kind of value selected in a menu. -/
def selects : ComponentKind → Option Parameter.Kind
  | button => none
  | stringSelect => some .string
  | userSelect => some .user
  | roleSelect => some .role
  | mentionableSelect => some .mentionable
  | channelSelect => some .channel

end ComponentKind

/-- A component of a message that was used. -/
structure ComponentEnvelope where
  id : String
  token : String
  guildId : Option String
  channelId : String
  member : Option Invoker
  messageId : String
  kind : ComponentKind
  customId : String
  /-- What was selected, as the platform names it. -/
  values : List String
  directory : Directory

namespace ComponentEnvelope

def fields : Record ComponentEnvelope ComponentEnvelope :=
  ComponentEnvelope.mk <$> required "id" .text id
    <*> required "token" .text token
    <*> optional "guildId" .text guildId
    <*> required "channelId" .text channelId
    <*> optional "member" Invoker.codec member
    <*> required "messageId" .text messageId
    <*> required "componentKind" ComponentKind.naming.codec kind
    <*> required "customId" .text customId
    <*> defaulted "values" (.list .text) [] values
    <*> defaulted "dataMap" Directory.codec .empty directory

def codec : Codec ComponentEnvelope := fields.codec "ComponentEnvelope"

end ComponentEnvelope

/-- What was entered in one input of a form. -/
structure FormEntry where
  customId : String
  value : String

namespace FormEntry

def fields : Record FormEntry FormEntry :=
  FormEntry.mk <$> required "customId" .text customId <*> required "value" .text value

def codec : Codec FormEntry := fields.codec "ModalValue"

end FormEntry

/-- A form that was submitted. -/
structure ModalEnvelope where
  id : String
  token : String
  guildId : Option String
  channelId : String
  member : Option Invoker
  /-- The message the form was opened from, if it was opened from a component. -/
  messageId : Option String
  customId : String
  values : List FormEntry

namespace ModalEnvelope

def fields : Record ModalEnvelope ModalEnvelope :=
  ModalEnvelope.mk <$> required "id" .text id
    <*> required "token" .text token
    <*> optional "guildId" .text guildId
    <*> required "channelId" .text channelId
    <*> optional "member" Invoker.codec member
    <*> optional "messageId" .text messageId
    <*> required "customId" .text customId
    <*> defaulted "values" (.list FormEntry.codec) [] values

def codec : Codec ModalEnvelope := fields.codec "ModalSubmitEnvelope"

/-- What was entered in the first input of an id. -/
def value? (e : ModalEnvelope) (customId : String) : Option String :=
  (e.values.find? fun v => v.customId == customId).map (·.value)

end ModalEnvelope

/-- An event as the transport delivers it. -/
structure Event where
  tag : String
  payload : Json

namespace Event

/-- The tag of command interactions. -/
def commandTag : String := "INTERACTION_COMMAND"

/-- The tag of component interactions. -/
def componentTag : String := "INTERACTION_COMPONENT"

/-- The tag of submitted forms. -/
def modalTag : String := "INTERACTION_MODAL_SUBMIT"

def fields : Record Event Event :=
  Event.mk <$> required "tag" .text tag <*> defaulted "payload" .any .null payload

def codec : Codec Event := fields.codec "InboundEvent"

end Event

end InteractionRouting
