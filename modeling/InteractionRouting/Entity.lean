import InteractionRouting.Wire.Record

/-!
# Platform entities

Users, members, roles, channels and messages as the platform sends them.  An interaction
refers to entities by id and brings those it refers to along, in a `Directory`.
-/

namespace InteractionRouting

open Wire Record

/-- A user of the platform. -/
structure User where
  id : String
  username : String
  discriminator : Option String
  globalName : Option String
  avatar : Option String
  bot : Bool

namespace User

def fields : Record User User :=
  User.mk <$> required "id" .text id
    <*> required "username" .text username
    <*> optional "discriminator" .text discriminator
    <*> optional "globalName" .text globalName
    <*> optional "avatar" .text avatar
    <*> defaulted "bot" .flag false bot

def codec : Codec User := fields.codec "User"

/-- The name shown for a user: the global name if there is one. -/
def displayName (u : User) : String := u.globalName.getD u.username

/-- The text that mentions a user. -/
def mention (u : User) : String := s!"<@{u.id}>"

end User

/-- What a guild knows about one of its users; the user stands elsewhere, under the same
id. -/
structure Member where
  nick : Option String
  roles : List String
  joinedAt : Option String
  avatar : Option String
  permissions : Option String
  pending : Bool

namespace Member

def fields : Record Member Member :=
  Member.mk <$> optional "nick" .text nick
    <*> defaulted "roles" (.list .text) [] roles
    <*> optional "joinedAt" .text joinedAt
    <*> optional "avatar" .text avatar
    <*> optional "permissions" .text permissions
    <*> defaulted "pending" .flag false pending

def codec : Codec Member := fields.codec "Member"

end Member

/-- The member who started an interaction, with its user. -/
structure Invoker where
  user : User
  member : Member

namespace Invoker

def own : Record Invoker User := required "user" User.codec user

/-- The member's fields stand beside the user in one object. -/
def codec : Codec Invoker :=
  own.codecWith "InvokingMember" (Member.fields.decodeFields .buffered)
    (fun i => Member.fields.write i.member) Invoker.mk

end Invoker

/-- A role of a guild. -/
structure Role where
  id : String
  name : String
  color : UInt32
  hoist : Bool
  managed : Bool
  mentionable : Bool
  position : Int64
  permissions : String

namespace Role

def fields : Record Role Role :=
  Role.mk <$> required "id" .text id
    <*> required "name" .text name
    <*> defaulted "color" .uint32 0 color
    <*> defaulted "hoist" .flag false hoist
    <*> defaulted "managed" .flag false managed
    <*> defaulted "mentionable" .flag false mentionable
    <*> defaulted "position" .int64 0 position
    <*> defaulted "permissions" .text "" permissions

def codec : Codec Role := fields.codec "Role"

/-- The text that mentions a role. -/
def mention (r : Role) : String := s!"<@&{r.id}>"

end Role

/-- The kinds of channels. -/
inductive ChannelType where
  | text
  | voice
  | category
  | news
  | newsThread
  | publicThread
  | privateThread
  | stageVoice
  | directory
  | forum
  | unknown
deriving DecidableEq

namespace ChannelType

def name : ChannelType → String
  | text => "Text"
  | voice => "Voice"
  | category => "Category"
  | news => "News"
  | newsThread => "NewsThread"
  | publicThread => "PublicThread"
  | privateThread => "PrivateThread"
  | stageVoice => "StageVoice"
  | directory => "Directory"
  | forum => "Forum"
  | unknown => "Unknown"

/-- Every name that is not known names an unknown kind. -/
def naming : Naming ChannelType where
  names := [text, voice, category, news, newsThread, publicThread, privateThread, stageVoice,
    directory, forum, unknown].map fun t => (t.name, t)
  fallback := some unknown
  name := name

end ChannelType

/-- A channel, as interactions bring it along. -/
structure Channel where
  id : String
  name : String
  kind : ChannelType
  parentId : Option String
  permissions : Option String

namespace Channel

def fields : Record Channel Channel :=
  Channel.mk <$> required "id" .text id
    <*> required "name" .text name
    <*> required "kind" ChannelType.naming.codec kind
    <*> optional "parentId" .text parentId
    <*> optional "permissions" .text permissions

def codec : Codec Channel := fields.codec "Channel"

/-- The text that mentions a channel. -/
def mention (c : Channel) : String := s!"<#{c.id}>"

end Channel

/-- A message.  What is of no interest here is kept as it came, in `extra`. -/
structure Message where
  id : String
  channelId : String
  content : String
  author : Option User
  extra : List (String × Json)

namespace Message

def own : Record Message (List (String × Json) → Message) :=
  Message.mk <$> required "id" .text id
    <*> required "channelId" .text channelId
    <*> defaulted "content" .text "" content
    <*> optional "author" User.codec author

/-- The extra fields stand beside the known ones in one object. -/
def codec : Codec Message :=
  own.codecWith "Message" .ok extra fun build rest => build rest

end Message

/-- The entities an interaction refers to, by id. -/
structure Directory where
  users : Table User
  members : Table Member
  roles : Table Role
  channels : Table Channel
  messages : Table Message

namespace Directory

/-- The directory without entities. -/
def empty : Directory := ⟨.empty, .empty, .empty, .empty, .empty⟩

def fields : Record Directory Directory :=
  Directory.mk <$> defaulted "users" (.table User.codec) .empty users
    <*> defaulted "members" (.table Member.codec) .empty members
    <*> defaulted "roles" (.table Role.codec) .empty roles
    <*> defaulted "channels" (.table Channel.codec) .empty channels
    <*> defaulted "messages" (.table Message.codec) .empty messages

def codec : Codec Directory := fields.codec "DataMap"

def addUser (d : Directory) (u : User) : Directory := { d with users := d.users.insert u.id u }

/-- Adds what the guild knows about the user with an id. -/
def addMember (d : Directory) (id : String) (m : Member) : Directory :=
  { d with members := d.members.insert id m }

def addRole (d : Directory) (r : Role) : Directory := { d with roles := d.roles.insert r.id r }

def addChannel (d : Directory) (c : Channel) : Directory :=
  { d with channels := d.channels.insert c.id c }

def addMessage (d : Directory) (m : Message) : Directory :=
  { d with messages := d.messages.insert m.id m }

end Directory

end InteractionRouting
