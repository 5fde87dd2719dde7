import InteractionRouting.Wire.Codec

/-!
# Records

A record describes the named fields of a type once, for reading and for writing.  Records
are put together field by field with `<$>` and `<*>`, in the order in which the fields are
written.

A record is read from an object by looking its fields up, so neither the order of the
object's fields nor fields it does not name change what is read.  Only the mismatch that is
given depends on the order: the one that comes first in the object, and when every field
that is there reads well, the first field of the record that is absent.
-/

namespace InteractionRouting.Wire

/-- Why the fields of a record do not read. -/
inductive Fault where
  /-- The field at a position of the object does not read. -/
  | invalid (position : Nat) (cause : Mismatch)
  /-- A required field is absent. -/
  | absent (field : String)

/-- Of two faults the one that is given: what comes first in the object, before anything
that is absent. -/
def Fault.first : Fault → Fault → Fault
  | invalid i c, invalid j d => if j < i then invalid j d else invalid i c
  | invalid i c, absent _ => invalid i c
  | absent _, invalid j d => invalid j d
  | absent f, absent _ => absent f

/-- The mismatch of an object with a fault. -/
def Fault.mismatch : Fault → Mismatch
  | invalid _ cause => cause
  | absent field => .absent field

/-- How a field is found: its position and its value. -/
abbrev Lookup := String → Option (Nat × Json)

/-- Finds a field in a list of fields, counting positions from `n`. -/
def locateFrom (n : Nat) : List (String × Json) → Lookup
  | [], _ => none
  | (k, v) :: rest, key => if k = key then some (n, v) else locateFrom (n + 1) rest key

/-- Finds a field in a list of fields. -/
def locate (fields : List (String × Json)) : Lookup := locateFrom 0 fields

/-- Finds a field in a list of values that stand in the order of `names`. -/
def locateItem (names : List String) (items : List Json) : Lookup := fun key =>
  locate (names.zip items) key

/-- The fields of `σ` that make up an `α`. -/
structure Record (σ α : Type) where
  names : List String
  read : Medium → Lookup → Except Fault α
  write : σ → List (String × Json)

namespace Record

variable {σ α β : Type}

/-- Joins what two parts of a record read. -/
def join : Except Fault (α → β) → Except Fault α → Except Fault β
  | .ok f, .ok a => .ok (f a)
  | .ok _, .error e => .error e
  | .error e, .ok _ => .error e
  | .error e, .error e' => .error (e.first e')

instance : Functor (Record σ) where
  map f r := ⟨r.names, fun m look => (r.read m look).map f, r.write⟩

instance : Seq (Record σ) where
  seq r s :=
    ⟨r.names ++ (s ()).names, fun m look => join (r.read m look) ((s ()).read m look),
      fun x => r.write x ++ (s ()).write x⟩

/-- One field: what it is when absent, if it may be, and when it is left out. -/
def field (name : String) (c : Codec α) (absent : Option α) (leaveOut : α → Bool)
    (get : σ → α) : Record σ α where
  names := [name]
  read m look :=
    match look name with
    | some (i, v) => (c.decode m v).mapError (.invalid i)
    | none =>
      match absent with
      | some a => .ok a
      | none => .error (.absent name)
  write x := if leaveOut (get x) then [] else [(name, c.encode (get x))]

/-- A field that must be there. -/
def required (name : String) (c : Codec α) (get : σ → α) : Record σ α :=
  field name c none (fun _ => false) get

/-- A field that is `a` when absent and is always written. -/
def defaulted (name : String) (c : Codec α) (a : α) (get : σ → α) : Record σ α :=
  field name c (some a) (fun _ => false) get

/-- A field that may be absent or null and is written as null when there is nothing. -/
def optional (name : String) (c : Codec α) (get : σ → Option α) : Record σ (Option α) :=
  field name c.option (some none) (fun _ => false) get

/-- A field that may be absent or null and is not written when there is nothing. -/
def elided (name : String) (c : Codec α) (get : σ → Option α) : Record σ (Option α) :=
  field name c.option (some none) Option.isNone get

/-- A list that may be absent and is not written when empty. -/
def elidedList (name : String) (c : Codec α) (get : σ → List α) : Record σ (List α) :=
  field name c.list (some []) List.isEmpty get

/-- A flag that may be absent and is not written when false. -/
def elidedFlag (name : String) (get : σ → Bool) : Record σ Bool :=
  field name Codec.flag (some false) (! ·) get

/-! ### Records as codecs -/

/-- A number of elements in words. -/
def elements (n : Nat) : String := if n = 1 then "1 element" else s!"{n} elements"

/-- What a sequence with items too many was expected to be. -/
def tooMany (m : Medium) (r : Record σ α) : Option String :=
  match m with
  | .direct => some "fewer elements in array"
  | .buffered => some s!"{elements r.names.length} in sequence"
  | .layered => none

/-- The mismatch of a sequence with a fault. -/
def itemMismatch (typeName : String) (r : Record σ α) : Fault → Mismatch
  | .invalid _ cause => cause
  | .absent field =>
    .length (r.names.idxOf field) s!"struct {typeName} with {elements r.names.length}"

/-- Reads a record from values that stand in the order of its fields. -/
def decodeItems (typeName : String) (r : Record σ α) (m : Medium) (items : List Json) :
    Except Mismatch α :=
  match r.read m (locateItem r.names items) with
  | .error fault => .error (r.itemMismatch typeName fault)
  | .ok a =>
    match r.tooMany m with
    | some expected =>
      if r.names.length < items.length then .error (.length items.length expected) else .ok a
    | none => .ok a

/-- Reads a record from the fields of an object. -/
def decodeFields (r : Record σ α) (m : Medium) (fields : List (String × Json)) :
    Except Mismatch α :=
  (r.read m (locate fields)).mapError Fault.mismatch

/-- A type written as the object of its fields. -/
def codec (typeName : String) (r : Record α α) : Codec α where
  decode m
    | .object fields => r.decodeFields m fields
    | .array items => r.decodeItems typeName m items
    | v => Codec.refuse v s!"struct {typeName}"
  encode a := .object (r.write a)

/-- The fields an object has besides those of a record. -/
def others (r : Record σ α) (fields : List (String × Json)) : List (String × Json) :=
  fields.filter fun f => !r.names.contains f.1

/-- A type whose object holds its own fields and, beside them, those of a part.  The part
is read from the fields that are left over, once the own fields are read. -/
def codecWith (typeName : String) (own : Record σ α)
    (readPart : List (String × Json) → Except Mismatch β)
    (writePart : σ → List (String × Json)) (build : α → β → σ) : Codec σ where
  decode m
    | .object fields => do
      let a ← own.decodeFields m fields
      let b ← readPart (own.others fields)
      return build a b
    | v => Codec.refuse v s!"struct {typeName}"
  encode x := .object (own.write x ++ writePart x)

end Record

end InteractionRouting.Wire
