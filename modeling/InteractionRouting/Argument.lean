import InteractionRouting.Envelope

/-!
# Arguments

The values given to a command are resolved before its handler runs: plain values are
checked against the kind of their parameter, and ids are looked up in the directory that
came along.  A command whose arguments do not resolve is not run.
-/

namespace InteractionRouting

open Wire

/-- A user, with what the guild knows about it when the user is in the guild. -/
structure GuildUser where
  user : User
  member : Option Member

/-- Users are written as user and member, side by side. -/
def GuildUser.encode (u : GuildUser) : Json :=
  .object [("user", User.codec.encode u.user), ("member", Member.codec.option.encode u.member)]

/-- A resolved value. -/
inductive Argument where
  | string (s : String)
  | number (x : Float)
  | integer (i : Int64)
  | boolean (b : Bool)
  | user (u : GuildUser)
  | role (r : Role)
  | channel (c : Channel)

/-- Why a value does not resolve. -/
inductive ResolutionError where
  /-- The directory has no such entity. -/
  | notFound (kind : String)
  /-- A required parameter has no value. -/
  | missing (name : String)
  /-- The value is not of the kind that is expected. -/
  | invalid (name : String) (expected : String)
deriving DecidableEq

def ResolutionError.message : ResolutionError → String
  | notFound kind => s!"{kind} reference not found in interaction data"
  | missing name => s!"required option '{name}' is missing"
  | invalid name expected => s!"option '{name}' expected a {expected} value"

namespace Argument

def asString? : Argument → Option String
  | string s => some s
  | _ => none

/-- A number; an integer is widened. -/
def asNumber? : Argument → Option Float
  | number x => some x
  | integer i => some i.toFloat
  | _ => none

def asInteger? : Argument → Option Int64
  | integer i => some i
  | _ => none

def asBoolean? : Argument → Option Bool
  | boolean b => some b
  | _ => none

def asUser? : Argument → Option GuildUser
  | user u => some u
  | _ => none

def asRole? : Argument → Option Role
  | role r => some r
  | _ => none

def asChannel? : Argument → Option Channel
  | channel c => some c
  | _ => none

/-- Whether the argument is something that can be mentioned: a user or a role. -/
def isMentionable : Argument → Bool
  | user _ | role _ => true
  | _ => false

/-- An argument as plain JSON, without a mark of its variant. -/
def encode : Argument → Json
  | string s => .string s
  | number x => .ofFloat x
  | integer i => .int (.ofInt64 i)
  | boolean b => .bool b
  | user u => u.encode
  | role r => Role.codec.encode r
  | channel c => Channel.codec.encode c

end Argument

/-- The user of an id, with the member of the same id. -/
def Directory.guildUser? (d : Directory) (id : String) : Option GuildUser :=
  (d.users.get? id).map fun u => ⟨u, d.members.get? id⟩

namespace Supplied

/-- The value is not of the kind it should be. -/
def refuse {α : Type} (s : Supplied) : Except ResolutionError α :=
  .error (.invalid s.name (if s.kind.isReference then "reference id" else s.kind.label))

/-- What a value is when it was found to be of the right type. -/
def expect {α : Type} (s : Supplied) (found : Option α) : Except ResolutionError α :=
  match found with
  | some a => .ok a
  | none => s.refuse

/-- The entity of an id, as far as the directory has it. -/
def lookUp (s : Supplied) (find : String → Option Argument) :
    Except ResolutionError Argument :=
  match s.value.asString? with
  | none => s.refuse
  | some id =>
    match find id with
    | some a => .ok a
    | none => .error (.notFound s.kind.label)

/-- Resolves a value.  Something mentionable is a user if there is one of that id, and
otherwise a role. -/
def resolve (d : Directory) (s : Supplied) : Except ResolutionError Argument :=
  match s.kind with
  | .string => s.expect (s.value.asString?.map .string)
  | .number => s.expect (s.value.asFloat?.map .number)
  | .integer => s.expect (s.value.asInt64?.map .integer)
  | .boolean => s.expect (s.value.asBool?.map .boolean)
  | .user => s.lookUp fun id => (d.guildUser? id).map .user
  | .role => s.lookUp fun id => (d.roles.get? id).map .role
  | .channel => s.lookUp fun id => (d.channels.get? id).map .channel
  | .mentionable => s.lookUp fun id =>
    ((d.guildUser? id).map .user).or ((d.roles.get? id).map .role)

end Supplied

/-- The resolved values of a command, by the names of its parameters. -/
structure Arguments where
  table : Table Argument

namespace Arguments

def empty : Arguments := ⟨.empty⟩

def get? (a : Arguments) (name : String) : Option Argument := a.table.get? name

def size (a : Arguments) : Nat := a.table.size

def string? (a : Arguments) (name : String) : Option String :=
  (a.get? name).bind Argument.asString?

def number? (a : Arguments) (name : String) : Option Float :=
  (a.get? name).bind Argument.asNumber?

def integer? (a : Arguments) (name : String) : Option Int64 :=
  (a.get? name).bind Argument.asInteger?

def boolean? (a : Arguments) (name : String) : Option Bool :=
  (a.get? name).bind Argument.asBoolean?

def user? (a : Arguments) (name : String) : Option GuildUser :=
  (a.get? name).bind Argument.asUser?

def role? (a : Arguments) (name : String) : Option Role :=
  (a.get? name).bind Argument.asRole?

def channel? (a : Arguments) (name : String) : Option Channel :=
  (a.get? name).bind Argument.asChannel?

/-- A user or a role. -/
def mentionable? (a : Arguments) (name : String) : Option Argument :=
  (a.get? name).filter Argument.isMentionable

/-- An order in which arguments are gone through, each of them once.  There is none in which they
are kept. -/
structure Order (a : Arguments) where
  entries : List (String × Argument)
  perm : entries.Perm a.table.entries

/-- The order in which they came in. -/
def inOrder (a : Arguments) : a.Order := ⟨a.table.entries, .refl _⟩

/-- The arguments as the object of their plain values. -/
def encode (a : Arguments) (order : a.Order) : Json :=
  .object (order.entries.map fun e => (e.1, e.2.encode))

/-- Reads the arguments as a type of the handler's own. -/
def read {α : Type} (a : Arguments) (order : a.Order) (c : Codec α) : Except Mismatch α :=
  c.decode .direct (a.encode order)

/-- Resolves one parameter: what it adds to the arguments. -/
def resolveOne (e : CommandEnvelope) (name : String) (p : Parameter) :
    Except ResolutionError (Option Argument) :=
  match e.supplied? name with
  | some s =>
    if s.kind = p.kind then (s.resolve e.directory).map some
    else .error (.invalid name p.kind.label)
  | none => if p.required then .error (.missing name) else .ok none

/-- Resolves parameters one after the other. -/
def resolveFrom (e : CommandEnvelope) :
    List (String × Parameter) → Arguments → Except ResolutionError Arguments
  | [], a => .ok a
  | (name, p) :: rest, a =>
    match resolveOne e name p with
    | .error error => .error error
    | .ok none => resolveFrom e rest a
    | .ok (some v) => resolveFrom e rest ⟨a.table.insert name v⟩

/-- Resolves the values of a command in the order of its parameters.  Values for parameters
that are not declared are passed over, and of several values for one parameter the first
counts. -/
def resolve (s : Signature) (e : CommandEnvelope) : Except ResolutionError Arguments :=
  resolveFrom e s.entries empty

end Arguments

/-- What a command of a context menu was invoked on. -/
inductive Target where
  | user (u : GuildUser)
  | message (m : Message)

/-- Resolves the target of a command; a chat command has none. -/
def CommandEnvelope.target (e : CommandEnvelope) : Except ResolutionError (Option Target) :=
  match e.kind with
  | .chat => .ok none
  | .user =>
    match e.targetId.bind fun id => e.directory.guildUser? id with
    | some u => .ok (some (.user u))
    | none => .error (.notFound "user")
  | .message =>
    match e.targetId.bind fun id => e.directory.messages.get? id with
    | some m => .ok (some (.message m))
    | none => .error (.notFound "message")

/-- Resolves what was selected in a menu, value by value and under the name that the menu goes by;
a button selects nothing. -/
def ComponentEnvelope.selected (e : ComponentEnvelope) (name : String) :
    Except ResolutionError (List Argument) :=
  match e.kind.selects with
  | none => .ok []
  | some kind => e.values.mapM fun v => Supplied.resolve e.directory ⟨name, kind, .string v⟩

end InteractionRouting
