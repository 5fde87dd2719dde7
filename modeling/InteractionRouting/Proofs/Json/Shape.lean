import InteractionRouting.Json.Printer

/-!
# Shapes of JSON values

How deep a value is nested, and what holds of a value and of every value inside it.  Text
costs two brackets a level, so a short text is not deep.
-/

namespace InteractionRouting.Json

mutual

/-- How deep arrays and objects are nested in a value. -/
def depth : Json → Nat
  | null | bool _ | int _ | float _ | string _ => 0
  | array items => depthOfItems items + 1
  | object fields => depthOfFields fields + 1

/-- The depth of the deepest item. -/
def depthOfItems : List Json → Nat
  | [] => 0
  | v :: rest => max (depth v) (depthOfItems rest)

/-- The depth of the deepest field. -/
def depthOfFields : List (String × Json) → Nat
  | [] => 0
  | (_, v) :: rest => max (depth v) (depthOfFields rest)

end

mutual

/-- Whether `p` holds of a value and of every value inside it. -/
def every (p : Json → Bool) : Json → Bool
  | null => p null
  | bool b => p (bool b)
  | int i => p (int i)
  | float x => p (float x)
  | string s => p (string s)
  | array items => p (array items) && everyItem p items
  | object fields => p (object fields) && everyField p fields

/-- Whether `p` holds of all items and of every value inside them. -/
def everyItem (p : Json → Bool) : List Json → Bool
  | [] => true
  | v :: rest => every p v && everyItem p rest

/-- Whether `p` holds of the values of all fields and of every value inside them. -/
def everyField (p : Json → Bool) : List (String × Json) → Bool
  | [] => true
  | (_, v) :: rest => every p v && everyField p rest

end

/-- No number in the value is a double. -/
def IsIntegral (v : Json) : Prop :=
  v.every (fun | float _ => false | _ => true) = true

/-- No object in the value repeats a key. -/
def HasDistinctKeys (v : Json) : Prop :=
  v.every (fun | object fields => decide (fields.map Prod.fst).Nodup | _ => true) = true

/-- Every double in the value is finite; text stands for no others. -/
def HasFiniteDoubles (v : Json) : Prop :=
  v.every (fun | float x => x.isFinite | _ => true) = true

instance (v : Json) : Decidable v.IsIntegral := inferInstanceAs (Decidable (_ = true))

instance (v : Json) : Decidable v.HasDistinctKeys := inferInstanceAs (Decidable (_ = true))

instance (v : Json) : Decidable v.HasFiniteDoubles := inferInstanceAs (Decidable (_ = true))

/-- What is to hold of all items and inside them is to hold of and inside each. -/
theorem everyItem_iff {p : Json → Bool} {items : List Json} :
  everyItem p items = true ↔ ∀ v ∈ items, v.every p = true
  := by
  induction items with
  | nil => simp [everyItem]
  | cons v rest ih => simp [everyItem, ih]

/-- What is to hold of all fields and inside them is to hold of and inside each. -/
theorem everyField_iff {p : Json → Bool} {fields : List (String × Json)} :
  everyField p fields = true ↔ ∀ f ∈ fields, f.2.every p = true
  := by
  induction fields with
  | nil => simp [everyField]
  | cons f rest ih => simp [everyField, ih]

/-- There is no double in an array exactly if there is none in its items. -/
theorem isIntegral_array_iff {items : List Json} :
  (array items).IsIntegral ↔ ∀ v ∈ items, v.IsIntegral
  := by
  simp [IsIntegral, every, everyItem_iff]

/-- There is no double in an object exactly if there is none in its fields. -/
theorem isIntegral_object_iff {fields : List (String × Json)} :
  (object fields).IsIntegral ↔ ∀ f ∈ fields, f.2.IsIntegral
  := by
  simp [IsIntegral, every, everyField_iff]

theorem not_isIntegral_float (x : Float) :
  ¬(float x).IsIntegral
  := by
  simp [IsIntegral, every]

/-- No key is repeated in an array exactly if none is in its items. -/
theorem hasDistinctKeys_array_iff {items : List Json} :
  (array items).HasDistinctKeys ↔ ∀ v ∈ items, v.HasDistinctKeys
  := by
  simp [HasDistinctKeys, every, everyItem_iff]

/-- No key is repeated in an object exactly if its own keys are distinct and none is repeated in its
fields. -/
theorem hasDistinctKeys_object_iff {fields : List (String × Json)} :
  (object fields).HasDistinctKeys
    ↔ (fields.map Prod.fst).Nodup ∧ ∀ f ∈ fields, f.2.HasDistinctKeys
  := by
  simp [HasDistinctKeys, every, everyField_iff]

/-- The doubles in an array are finite exactly if those in its items are. -/
theorem hasFiniteDoubles_array_iff {items : List Json} :
  (array items).HasFiniteDoubles ↔ ∀ v ∈ items, v.HasFiniteDoubles
  := by
  simp [HasFiniteDoubles, every, everyItem_iff]

/-- The doubles in an object are finite exactly if those in its fields are. -/
theorem hasFiniteDoubles_object_iff {fields : List (String × Json)} :
  (object fields).HasFiniteDoubles ↔ ∀ f ∈ fields, f.2.HasFiniteDoubles
  := by
  simp [HasFiniteDoubles, every, everyField_iff]

theorem hasFiniteDoubles_float_iff {x : Float} :
  (float x).HasFiniteDoubles ↔ x.isFinite = true
  := by
  simp [HasFiniteDoubles, every]

/-- Items are nested at most so deep exactly if each of them is. -/
theorem depthOfItems_le_iff {items : List Json} {d : Nat} :
  depthOfItems items ≤ d ↔ ∀ v ∈ items, v.depth ≤ d
  := by
  induction items with
  | nil => simp [depthOfItems]
  | cons v rest ih => rw [depthOfItems, Nat.max_le, ih, List.forall_mem_cons]

/-- Fields are nested at most so deep exactly if each of them is. -/
theorem depthOfFields_le_iff {fields : List (String × Json)} {d : Nat} :
  depthOfFields fields ≤ d ↔ ∀ f ∈ fields, f.2.depth ≤ d
  := by
  induction fields with
  | nil => simp [depthOfFields]
  | cons f rest ih => rw [depthOfFields, Nat.max_le, ih, List.forall_mem_cons]

mutual

/-- Each level of nesting is written as a pair of brackets. -/
theorem depth_le_length_write (v : Json) :
  2 * v.depth ≤ v.write.length
  := by
  match v with
  | null | bool _ | int _ | float _ | string _ => simp [depth]
  | array [] => simp [depth, depthOfItems, write]
  | array (v :: rest) =>
    have hv := depth_le_length_write v
    have hrest := depthOfItems_le_length_writeItems rest
    simp only [depth, depthOfItems, write, List.length_cons, List.length_append]
    omega
  | object [] => simp [depth, depthOfFields, write]
  | object ((k, v) :: rest) =>
    have hv := depth_le_length_write v
    have hrest := depthOfFields_le_length_writeFields rest
    simp only [depth, depthOfFields, write, List.length_cons, List.length_append]
    omega

/-- Every level of nesting in items takes two characters. -/
theorem depthOfItems_le_length_writeItems (items : List Json) :
  2 * depthOfItems items < (writeItems items).length
  := by
  match items with
  | [] => simp [depthOfItems, writeItems]
  | v :: rest =>
    have hv := depth_le_length_write v
    have hrest := depthOfItems_le_length_writeItems rest
    simp only [depthOfItems, writeItems, List.length_cons, List.length_append]
    omega

/-- Every level of nesting in fields takes two characters. -/
theorem depthOfFields_le_length_writeFields (fields : List (String × Json)) :
  2 * depthOfFields fields < (writeFields fields).length
  := by
  match fields with
  | [] => simp [depthOfFields, writeFields]
  | (k, v) :: rest =>
    have hv := depth_le_length_write v
    have hrest := depthOfFields_le_length_writeFields rest
    simp only [depthOfFields, writeFields, List.length_cons, List.length_append]
    omega

end

end InteractionRouting.Json
