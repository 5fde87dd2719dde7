/-!
# JSON values

The tree of a JSON document.  An object lists its fields in the order of the document.
Integers are kept apart from doubles: an integer is any number that fits an unsigned or a
signed 64-bit word, and every double that JSON text stands for is finite.
-/

namespace InteractionRouting

/-- An integer that fits an unsigned or a signed 64-bit word. -/
structure WideInt where
  val : Int
  lower : -9223372036854775808 ≤ val
  upper : val < 18446744073709551616
deriving DecidableEq

namespace WideInt

/-- The integer `i`, when it fits. -/
def ofInt? (i : Int) : Option WideInt :=
  if h : -9223372036854775808 ≤ i ∧ i < 18446744073709551616 then some ⟨i, h.1, h.2⟩ else none

/-- A signed word. -/
def ofInt64 (n : Int64) : WideInt where
  val := n.toInt
  lower := by have := n.le_toInt; omega
  upper := by have := n.toInt_lt; omega

/-- An integer that was taken is taken again. -/
theorem ofInt?_val (i : WideInt) :
  ofInt? i.val = some i
  := by
  unfold ofInt?
  rw [dif_pos ⟨i.lower, i.upper⟩]

/-- The nearest double. -/
def toFloat (i : WideInt) : Float := Float.ofInt i.val

end WideInt

/-- A JSON value. -/
inductive Json where
  | null
  | bool (b : Bool)
  | int (i : WideInt)
  | float (x : Float)
  | string (s : String)
  | array (items : List Json)
  | object (fields : List (String × Json))
deriving Inhabited

namespace Json

/-- A double as a JSON value; there is no JSON number for an infinity or a NaN. -/
def ofFloat (x : Float) : Json := if x.isFinite then .float x else .null

/-- An integer as a JSON number, as a double when it is too wide. -/
def ofInt (i : Int) : Json :=
  match WideInt.ofInt? i with
  | some w => .int w
  | none => ofFloat (Float.ofInt i)

/-- A count as a JSON number. -/
def ofNat (n : Nat) : Json := ofInt n

/-- A string or null. -/
def ofString? (s : Option String) : Json := s.elim .null .string

/-- A list of strings. -/
def ofStrings (l : List String) : Json := .array (l.map .string)

def isNull : Json → Bool
  | null => true
  | _ => false

/-- The fields of an object; any other value has none. -/
def fields : Json → List (String × Json)
  | object fields => fields
  | _ => []

/-- The items of an array; any other value has none. -/
def items : Json → List Json
  | array items => items
  | _ => []

/-- The field of an object under a key. -/
def get? (v : Json) (key : String) : Option Json := v.fields.lookup key

def asString? : Json → Option String
  | string s => some s
  | _ => none

def asBool? : Json → Option Bool
  | bool b => some b
  | _ => none

/-- Any number, an integer being widened to the nearest double. -/
def asFloat? : Json → Option Float
  | int i => some i.toFloat
  | float x => some x
  | _ => none

/-- An integer that fits a signed word. -/
def asInt64? : Json → Option Int64
  | int i => if i.val < 9223372036854775808 then some (Int64.ofInt i.val) else none
  | _ => none

/-! ### Comparing values -/

mutual

/-- Whether two values are the same. -/
def same : Json → Json → Bool
  | null, null => true
  | bool b, bool b' => b == b'
  | int i, int i' => decide (i = i')
  | float x, float x' => decide (x = x')
  | string s, string s' => decide (s = s')
  | array items, array items' => sameItems items items'
  | object fields, object fields' => sameFields fields fields'
  | _, _ => false

/-- Whether values are the same, one by one. -/
def sameItems : List Json → List Json → Bool
  | [], [] => true
  | v :: vs, v' :: vs' => same v v' && sameItems vs vs'
  | _, _ => false

/-- Whether fields are the same, one by one. -/
def sameFields : List (String × Json) → List (String × Json) → Bool
  | [], [] => true
  | (k, v) :: fs, (k', v') :: fs' => decide (k = k') && same v v' && sameFields fs fs'
  | _, _ => false

end

mutual

/-- The comparison of values, item by item and field by field, is equality. -/
theorem same_iff : ∀ {v w : Json}, same v w = true ↔ v = w
  | null, w | bool _, w | int _, w | float _, w | string _, w => by
    cases w with
    | _ => simp [same]
  | array items, w => by
    cases w with
    | array items' => rw [same, sameItems_iff, array.injEq]
    | _ => simp [same]
  | object fields, w => by
    cases w with
    | object fields' => rw [same, sameFields_iff, object.injEq]
    | _ => simp [same]

/-- Items are compared one by one, in their order. -/
theorem sameItems_iff : ∀ {vs ws : List Json}, sameItems vs ws = true ↔ vs = ws
  | [], ws => by cases ws with | _ => simp [sameItems]
  | v :: vs, ws => by
    cases ws with
    | nil => simp [sameItems]
    | cons w ws => rw [sameItems, Bool.and_eq_true, same_iff, sameItems_iff, List.cons.injEq]

/-- Fields are compared one by one, in their order, each with its key. -/
theorem sameFields_iff : ∀ {fs gs : List (String × Json)}, sameFields fs gs = true ↔ fs = gs
  | [], gs => by cases gs with | _ => simp [sameFields]
  | (k, v) :: fs, gs => by
    cases gs with
    | nil => simp [sameFields]
    | cons g gs =>
      rw [sameFields, Bool.and_eq_true, Bool.and_eq_true, decide_eq_true_iff, same_iff,
        sameFields_iff, List.cons.injEq, Prod.ext_iff]

end

instance : DecidableEq Json := fun _ _ => decidable_of_iff _ same_iff

/-! ### Pointers

A pointer names a place inside a value by the keys and indices that lead to it, each after
a slash.  The empty pointer names the value itself. -/

/-- A step of a pointer with `~1` read as a slash and `~0` as a tilde. -/
def pointerStep (s : String) : String := (s.replace "~1" "/").replace "~0" "~"

/-- An array index: decimal digits without a leading zero. -/
def pointerIndex? (s : String) : Option Nat :=
  if s.isEmpty || !s.all Char.isDigit || (s.startsWith "0" && s.length ≠ 1) then none
  else s.toNat?

/-- The value one step further in. -/
def child? (v : Json) (step : String) : Option Json :=
  match v with
  | object fields => fields.lookup step
  | array items => (pointerIndex? step).bind (items[·]?)
  | _ => none

/-- The value a pointer names. -/
def pointer? (v : Json) (path : String) : Option Json :=
  match path.splitOn "/" with
  | "" :: steps => (steps.map pointerStep).foldlM child? v
  | _ => none

end Json

end InteractionRouting
