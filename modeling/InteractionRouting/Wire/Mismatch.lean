import InteractionRouting.Json.Printer
import InteractionRouting.Text.Shown

/-!
# Mismatches

Why a JSON value does not read as a value of the type that is asked for.
-/

namespace InteractionRouting.Wire

/-- What stands where something else was expected. -/
inductive Found where
  | bool (b : Bool)
  | integer (i : Int)
  | float (x : Float)
  | string (s : String)
  | null
  | sequence
  | map

/-- The wording of what was found. -/
def Found.message : Found → String
  | bool b => s!"boolean `{b}`"
  | integer i => s!"integer `{i}`"
  | float x =>
    let digits := String.ofList (Json.numberLayout.writeFloat x)
    s!"floating point `{digits}`"
  | string s => s!"string {Text.quote s}"
  | null => "null"
  | sequence => "sequence"
  | map => "map"

/-- What a JSON value is found to be. -/
def Found.of : Json → Found
  | .null => null
  | .bool b => bool b
  | .int i => integer i.val
  | .float x => float x
  | .string s => string s
  | .array _ => sequence
  | .object _ => map

/-- Why a value does not read. -/
inductive Mismatch where
  /-- The value is of another type. -/
  | type (found : Found) (expected : String)
  /-- The value is of the right type and still not allowed. -/
  | value (found : Found) (expected : String)
  /-- A sequence has the wrong number of items. -/
  | length (count : Nat) (expected : String)
  /-- A name is none of the known variants. -/
  | variant (name : String) (known : List String)
  /-- A field that is required is absent. -/
  | absent (field : String)

/-- The names a reader may choose from. -/
def oneOf : List String → String
  | [] => "there are no variants"
  | [a] => s!"expected `{a}`"
  | [a, b] => s!"expected `{a}` or `{b}`"
  | names =>
    let list := ", ".intercalate (names.map fun n => s!"`{n}`")
    s!"expected one of {list}"

/-- The wording of a mismatch. -/
def Mismatch.message : Mismatch → String
  | type found expected => s!"invalid type: {found.message}, expected {expected}"
  | value found expected => s!"invalid value: {found.message}, expected {expected}"
  | length count expected => s!"invalid length {count}, expected {expected}"
  | variant name known => s!"unknown variant `{name}`, {oneOf known}"
  | absent field => s!"missing field `{field}`"

end InteractionRouting.Wire
