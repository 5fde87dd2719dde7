import InteractionRouting.Entity

/-!
# Parameters of commands

A command declares its parameters in a `Signature`: an ordered list with distinct names.
It is written out when commands are registered with the platform, and read when the values
of an invocation are resolved.
-/

namespace InteractionRouting

open Wire Record

namespace Parameter

/-- The kinds of values a parameter takes. -/
inductive Kind where
  | string
  | number
  | integer
  | boolean
  | user
  | channel
  | role
  | mentionable
deriving DecidableEq

namespace Kind

/-- The name on the wire. -/
def name : Kind → String
  | string => "String"
  | number => "Number"
  | integer => "Integer"
  | boolean => "Boolean"
  | user => "User"
  | channel => "Channel"
  | role => "Role"
  | mentionable => "Mentionable"

/-- The name in messages. -/
def label : Kind → String
  | string => "string"
  | number => "number"
  | integer => "integer"
  | boolean => "boolean"
  | user => "user"
  | channel => "channel"
  | role => "role"
  | mentionable => "mentionable"

def naming : Naming Kind where
  names := [string, number, integer, boolean, user, channel, role, mentionable].map
    fun k => (k.name, k)
  fallback := none
  name := name

/-- Whether a value of this kind is the id of an entity. -/
def isReference : Kind → Bool
  | user | channel | role | mentionable => true
  | string | number | integer | boolean => false

end Kind

/-- A value offered to choose. -/
structure Choice where
  name : String
  value : Json

def Choice.fields : Record Choice Choice :=
  Choice.mk <$> required "name" .text Choice.name <*> required "value" .any Choice.value

def Choice.codec : Codec Choice := Choice.fields.codec "OptionChoice"

end Parameter

/-- The declaration of a parameter. -/
structure Parameter where
  kind : Parameter.Kind
  description : String
  required : Bool
  minValue : Option Float
  maxValue : Option Float
  minLength : Option UInt16
  maxLength : Option UInt16
  choices : List Parameter.Choice
  channelTypes : List ChannelType
  autocomplete : Bool

namespace Parameter

def fields : Record Parameter Parameter :=
  Parameter.mk <$> Record.required "kind" Kind.naming.codec kind
    <*> Record.required "description" .text description
    <*> defaulted "required" .flag false required
    <*> elided "minValue" .float64 minValue
    <*> elided "maxValue" .float64 maxValue
    <*> elided "minLength" .uint16 minLength
    <*> elided "maxLength" .uint16 maxLength
    <*> elidedList "choices" Choice.codec choices
    <*> elidedList "channelTypes" ChannelType.naming.codec channelTypes
    <*> elidedFlag "autocomplete" autocomplete

def codec : Codec Parameter := fields.codec "OptionSpec"

/-- A parameter of a kind that may be left out and takes any value. -/
def ofKind (kind : Kind) (description : String) : Parameter where
  kind := kind
  description := description
  required := false
  minValue := none
  maxValue := none
  minLength := none
  maxLength := none
  choices := []
  channelTypes := []
  autocomplete := false

/-- The parameter with one more choice. -/
def addChoice (p : Parameter) (name : String) (value : Json) : Parameter :=
  { p with choices := p.choices ++ [⟨name, value⟩] }

/-- The parameter with more channel types. -/
def addChannelTypes (p : Parameter) (types : List ChannelType) : Parameter :=
  { p with channelTypes := p.channelTypes ++ types }

/-- A parameter with its name, as it is registered. -/
structure Named where
  name : String
  parameter : Parameter

namespace Named

def own : Record Named String := Record.required "name" .text name

/-- The parameter's fields stand beside the name in one object. -/
def codec : Codec Named :=
  own.codecWith "NamedOption" (Parameter.fields.decodeFields .buffered)
    (fun n => Parameter.fields.write n.parameter) Named.mk

end Named

end Parameter

/-- The parameters of a command, in the order of their declaration. -/
structure Signature where
  entries : List (String × Parameter)
  nodup : (entries.map Prod.fst).Nodup

namespace Signature

/-- The signature without parameters. -/
def empty : Signature := ⟨[], by simp⟩

def names (s : Signature) : List String := s.entries.map Prod.fst

/-- The parameter of a name. -/
def get? (s : Signature) (name : String) : Option Parameter := s.entries.lookup name

/-- A parameter is found under its name exactly if it is declared. -/
theorem get?_eq_some_iff {s : Signature} {name : String} {p : Parameter} :
  s.get? name = some p ↔ (name, p) ∈ s.entries
  := Table.lookup_eq_some_iff_mem s.nodup

def contains (s : Signature) (name : String) : Bool := s.names.contains name

/-- A signature contains the names that are declared. -/
theorem contains_iff {s : Signature} {name : String} :
  s.contains name = true ↔ name ∈ s.names
  := List.contains_iff_mem

def size (s : Signature) : Nat := s.entries.length

/-- Adds a parameter at the end, unless its name is taken. -/
def add? (s : Signature) (name : String) (p : Parameter) : Option Signature :=
  if h : name ∈ s.names then none
  else
    some
      { entries := s.entries ++ [(name, p)]
        nodup := by
          rw [List.map_append, List.map_singleton]
          apply List.nodup_append.mpr
          refine ⟨s.nodup, by simp, ?_⟩
          rintro a ha b hb rfl
          rw [List.mem_singleton] at hb
          exact h (by rw [← show a = name from hb]; exact ha) }

/-- The parameters as they are registered. -/
def named (s : Signature) : List Parameter.Named := s.entries.map fun e => ⟨e.1, e.2⟩

end Signature

end InteractionRouting
