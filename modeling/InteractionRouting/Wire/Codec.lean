import InteractionRouting.Table
import InteractionRouting.Wire.Mismatch

/-!
# Codecs

A codec says how the values of a type stand in JSON, in both directions.  Reading may fail
with a mismatch; of several mismatches the one that comes first in the value is given.
-/

namespace InteractionRouting.Wire

/-- Where a value that is read comes from. -/
inductive Medium where
  /-- It is read straight from its document. -/
  | direct
  /-- It was set aside until its type was known. -/
  | buffered
  /-- It is the sum of several configuration layers. -/
  | layered
deriving DecidableEq

/-- How the values of a type stand in JSON. -/
structure Codec (α : Type) where
  decode : Medium → Json → Except Mismatch α
  encode : α → Json

namespace Codec

variable {α : Type}

/-- A mismatch of type for a value. -/
def refuse (v : Json) (expected : String) : Except Mismatch α :=
  .error (.type (.of v) expected)

/-- Any JSON value, as it stands. -/
def any : Codec Json where
  decode _ v := .ok v
  encode v := v

/-- A string. -/
def text : Codec String where
  decode _
    | .string s => .ok s
    | v => refuse v "a string"
  encode := .string

/-- The path of a file. -/
def path : Codec String where
  decode _
    | .string s => .ok s
    | v => refuse v "path string"
  encode := .string

/-- A boolean. -/
def flag : Codec Bool where
  decode _
    | .bool b => .ok b
    | v => refuse v "a boolean"
  encode := .bool

/-- An integer type, by its name and its integers. -/
def integer (name : String) (ofInt? : Int → Option α) (toInt : α → Int) : Codec α where
  decode _
    | .int i =>
      match ofInt? i.val with
      | some a => .ok a
      | none => .error (.value (.integer i.val) name)
    | v => refuse v name
  encode a := .ofInt (toInt a)

/-- Whether an integer is an unsigned word of so many bits. -/
def unsigned? (bits : Nat) (i : Int) : Option Nat :=
  if 0 ≤ i ∧ i < Nat.pow 2 bits then some i.toNat else none

def uint8 : Codec UInt8 :=
  integer "u8" (fun i => (unsigned? 8 i).map UInt8.ofNat) fun n => n.toNat

def uint16 : Codec UInt16 :=
  integer "u16" (fun i => (unsigned? 16 i).map UInt16.ofNat) fun n => n.toNat

def uint32 : Codec UInt32 :=
  integer "u32" (fun i => (unsigned? 32 i).map UInt32.ofNat) fun n => n.toNat

/-- A size in memory. -/
def size : Codec UInt64 :=
  integer "usize" (fun i => (unsigned? 64 i).map UInt64.ofNat) fun n => n.toNat

def int64 : Codec Int64 :=
  integer "i64"
    (fun i =>
      if -9223372036854775808 ≤ i ∧ i < 9223372036854775808 then some (Int64.ofInt i) else none)
    Int64.toInt

/-- A double; an integer is widened. -/
def float64 : Codec Float where
  decode _
    | .int i => .ok i.toFloat
    | .float x => .ok x
    | v => refuse v "f64"
  encode := .ofFloat

/-- A value or null. -/
def option (c : Codec α) : Codec (Option α) where
  decode m
    | .null => .ok none
    | v => (c.decode m v).map some
  encode
    | none => .null
    | some a => c.encode a

/-- A list. -/
def list (c : Codec α) : Codec (List α) where
  decode m
    | .array items => items.mapM (c.decode m)
    | v => refuse v "a sequence"
  encode l := .array (l.map c.encode)

/-- A table. -/
def table (c : Codec α) : Codec (Table α) where
  decode m
    | .object fields =>
      (fields.mapM fun f => (c.decode m f.2).map (Prod.mk f.1)).map Table.ofList
    | v => refuse v "a map"
  encode t := .object (t.entries.map fun e => (e.1, c.encode e.2))

end Codec

/-! ### Enumerations -/

/-- The names of the values of a type. -/
structure Naming (α : Type) where
  /-- The names that are known, each with its value. -/
  names : List (String × α)
  /-- The value that any other name stands for, if there is one. -/
  fallback : Option α
  /-- The name of a value. -/
  name : α → String

namespace Naming

variable {α : Type}

/-- The value of a name. -/
def value (n : Naming α) (s : String) : Except Mismatch α :=
  match n.names.lookup s, n.fallback with
  | some a, _ => .ok a
  | none, some a => .ok a
  | none, none => .error (.variant s (n.names.map Prod.fst))

/-- Whether a value may stand beside a name that takes no content. -/
def isUnit (m : Medium) : Json → Bool
  | .null => true
  | .object [] => m = .buffered
  | _ => false

/-- The field of an object that names a value: its only one.  Of the fields that layers add
up to it is the first in the order of their names. -/
def namingField? (m : Medium) : List (String × Json) → Option (String × Json)
  | [] => none
  | [f] => some f
  | f :: rest =>
    if m = .layered then some (rest.foldl (fun a b => if b.1 < a.1 then b else a) f) else none

/-- Reads a name, or an object whose one key is a name and whose one value is empty. -/
def decode (n : Naming α) (m : Medium) : Json → Except Mismatch α
  | .string s => n.value s
  | .object fields =>
    match namingField? m fields with
    | some (s, content) =>
      match n.value s with
      | .ok a => if isUnit m content then .ok a else Codec.refuse content "unit"
      | .error e => .error e
    | none => .error (.value .map "map with a single key")
  | v => Codec.refuse v "string or map"

/-- Reads a name that stands first in a sequence. -/
def decodeFirst (n : Naming α) : Json → Except Mismatch α
  | .string s => n.value s
  | v => Codec.refuse v "variant identifier"

/-- Values written as their names. -/
def codec (n : Naming α) : Codec α where
  decode := n.decode
  encode a := .string (n.name a)

end Naming

end InteractionRouting.Wire
