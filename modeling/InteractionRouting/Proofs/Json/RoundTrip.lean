import InteractionRouting.Proofs.Json.Scalar
import InteractionRouting.Proofs.Json.Shape

/-!
# JSON text reads back

The text of a value is read as that value, keys in the same order, provided that no number in
it is a double, no object repeats a key, and it is not nested deeper than the reader goes.
-/

namespace InteractionRouting.Json

/-- The reader takes the text of `v` off the front of any text and gives `v`. -/
def ReadsBack (item : Reader Json) (v : Json) : Prop :=
  ∀ rest, EndsNumber rest → item (v.write ++ rest) = .ok (v, rest)

/-! ### Where a value starts -/

/-- Nothing is skipped in front of a character that is no blank. -/
theorem skipBlanks_cons {c : Char} (h : isBlank c = false) (cs : List Char) :
  skipBlanks (c :: cs) = c :: cs
  := by
  rw [skipBlanks, List.dropWhile_cons_of_neg]
  simp [h]

/-- A digit is no blank. -/
theorem not_isBlank_of_isDigit {c : Char} (h : c.isDigit = true) :
  isBlank c = false
  := by
  by_contra hblank
  simp only [isBlank, Bool.not_eq_false, Bool.or_eq_true, decide_eq_true_eq] at hblank
  obtain ((rfl | rfl) | rfl) | rfl := hblank
  all_goals exact absurd h (by decide)

/-- The text of a value starts with a character that neither is blank nor closes an array. -/
theorem exists_write_eq_cons {v : Json} (h : v.IsIntegral) :
  ∃ c cs, v.write = c :: cs ∧ isBlank c = false ∧ c ≠ ']'
  := by
  match v with
  | null => exact ⟨_, _, rfl, rfl, by decide⟩
  | bool true => exact ⟨_, _, rfl, rfl, by decide⟩
  | bool false => exact ⟨_, _, rfl, rfl, by decide⟩
  | float x => exact absurd h (not_isIntegral_float x)
  | string s => exact ⟨_, _, rfl, rfl, by decide⟩
  | array [] => exact ⟨_, _, rfl, rfl, by decide⟩
  | array (v :: rest) => exact ⟨_, _, rfl, rfl, by decide⟩
  | object [] => exact ⟨_, _, rfl, rfl, by decide⟩
  | object ((k, v) :: rest) => exact ⟨_, _, rfl, rfl, by decide⟩
  | int i =>
    rw [write, writeInt]
    split_ifs
    · exact ⟨_, _, rfl, rfl, by decide⟩
    · obtain ⟨c, ds, hds, hc⟩ := toDigits_eq_cons i.val.natAbs
      use c, ds, hds, not_isBlank_of_isDigit hc, ne_of_isDigit hc rfl

/-! ### Arrays and objects -/

/-- A number ends where further items or the end of an array follow. -/
theorem endsNumber_writeItems (items : List Json) (rest : List Char) :
  EndsNumber (writeItems items ++ rest)
  := by
  cases items with
  | nil => apply endsNumber_cons (by simp)
  | cons => apply endsNumber_cons (by simp)

/-- A number ends where further fields or the end of an object follow. -/
theorem endsNumber_writeFields (fields : List (String × Json)) (rest : List Char) :
  EndsNumber (writeFields fields ++ rest)
  := by
  cases fields with
  | nil => apply endsNumber_cons (by simp)
  | cons => apply endsNumber_cons (by simp)

/-- There are fewer items than characters that they are written with. -/
theorem length_lt_length_writeItems (items : List Json) :
  items.length < (writeItems items).length
  := by
  induction items with
  | nil => simp [writeItems]
  | cons v rest ih =>
    simp only [writeItems, List.length_cons, List.length_append]
    omega

/-- There are fewer fields than characters that they are written with. -/
theorem length_lt_length_writeFields (fields : List (String × Json)) :
  fields.length < (writeFields fields).length
  := by
  induction fields with
  | nil => simp [writeFields]
  | cons f rest ih =>
    simp only [writeFields, List.length_cons, List.length_append]
    omega

/-- Items that each can be read back can be read back after others. -/
theorem itemsAfter_writeItems {item : Reader Json} {items : List Json}
    (hstart : ∀ v ∈ items, v.IsIntegral) (hitem : ∀ v ∈ items, ReadsBack item v)
    {fuel : Nat} (hfuel : items.length < fuel) (rest : List Char) :
  itemsAfter item fuel (writeItems items ++ rest) = .ok (items, rest)
  := by
  induction items generalizing fuel with
  | nil =>
    obtain ⟨fuel, rfl⟩ := Nat.exists_eq_succ_of_ne_zero (Nat.ne_zero_of_lt hfuel)
    rfl
  | cons v items ih =>
    obtain ⟨fuel, rfl⟩ := Nat.exists_eq_succ_of_ne_zero (Nat.ne_zero_of_lt hfuel)
    rw [List.forall_mem_cons] at hstart hitem
    have hrest := ih hstart.2 hitem.2 (Nat.lt_of_succ_lt_succ hfuel)
    obtain ⟨c, cs, hwrite, hblank, hclose⟩ := exists_write_eq_cons hstart.1
    have hv := hitem.1 _ (endsNumber_writeItems items rest)
    rw [hwrite, List.cons_append] at hv
    rw [writeItems, hwrite, List.cons_append, List.cons_append, List.cons_append, itemsAfter,
      skipBlanks_cons rfl]
    simp only [skipBlanks_cons hblank, List.append_assoc, hv, hrest, hclose, bind, Except.bind,
      if_false, reduceIte, Char.reduceEq]
    rfl

/-- The text of an array after its opening bracket is read as its items. -/
theorem arrayBody_write {item : Reader Json} {items : List Json}
    (hstart : ∀ v ∈ items, v.IsIntegral) (hitem : ∀ v ∈ items, ReadsBack item v)
    (rest : List Char) :
  arrayBody item ((array items).write.tail ++ rest) = .ok (items, rest)
  := by
  cases items with
  | nil => rfl
  | cons v items =>
    rw [List.forall_mem_cons] at hstart hitem
    obtain ⟨c, cs, hwrite, hblank, hclose⟩ := exists_write_eq_cons hstart.1
    have hv := hitem.1 _ (endsNumber_writeItems items rest)
    have hfuel : items.length < (writeItems items ++ rest).length + 1 := by
      have hlength := length_lt_length_writeItems items
      rw [List.length_append]
      omega
    have hrest := itemsAfter_writeItems hstart.2 hitem.2 hfuel rest
    rw [hwrite, List.cons_append] at hv
    rw [write, List.tail_cons, hwrite, List.cons_append, List.cons_append, arrayBody,
      skipBlanks_cons hblank]
    simp only [List.append_assoc, hv, hrest, hclose, bind, Except.bind, if_false]
    rfl

theorem writeString_eq_cons (k : List Char) :
  writeString k = '"' :: (writeString k).tail
  := rfl

/-- A key and its value are read as they were written. -/
theorem field_write {item : Reader Json} {v : Json} (hv : ReadsBack item v) (k : String)
    {rest : List Char} (hrest : EndsNumber rest) :
  field item ((writeString k.toList).tail ++ (':' :: (v.write ++ rest))) = .ok ((k, v), rest)
  := by
  have hcolon : skipBlanks (':' :: (v.write ++ rest)) = ':' :: (v.write ++ rest) :=
    skipBlanks_cons rfl _
  rw [field, quoted_writeString]
  simp only [bind, Except.bind, hcolon, reduceIte, hv rest hrest]
  rfl

/-- Fields whose values can be read back can be read back after others. -/
theorem fieldsAfter_writeFields {item : Reader Json} {fields : List (String × Json)}
    (hitem : ∀ f ∈ fields, ReadsBack item f.2) {fuel : Nat} (hfuel : fields.length < fuel)
    (rest : List Char) :
  fieldsAfter item fuel (writeFields fields ++ rest) = .ok (fields, rest)
  := by
  induction fields generalizing fuel with
  | nil =>
    obtain ⟨fuel, rfl⟩ := Nat.exists_eq_succ_of_ne_zero (Nat.ne_zero_of_lt hfuel)
    rfl
  | cons f fields ih =>
    obtain ⟨k, v⟩ := f
    obtain ⟨fuel, rfl⟩ := Nat.exists_eq_succ_of_ne_zero (Nat.ne_zero_of_lt hfuel)
    rw [List.forall_mem_cons] at hitem
    have hrest := ih hitem.2 (Nat.lt_of_succ_lt_succ hfuel)
    have hf := field_write hitem.1 k (endsNumber_writeFields fields rest)
    rw [writeFields, writeString_eq_cons, List.cons_append, List.cons_append, fieldsAfter,
      skipBlanks_cons rfl]
    simp only [skipBlanks_cons (c := '"') rfl, List.append_assoc, List.cons_append, hf, hrest, bind,
      Except.bind, if_false, reduceIte, Char.reduceEq]
    rfl

/-- The text of an object after its opening brace is read as its fields. -/
theorem objectBody_write {item : Reader Json} {fields : List (String × Json)}
    (hitem : ∀ f ∈ fields, ReadsBack item f.2) (rest : List Char) :
  objectBody item ((object fields).write.tail ++ rest) = .ok (fields, rest)
  := by
  cases fields with
  | nil => rfl
  | cons f fields =>
    obtain ⟨k, v⟩ := f
    rw [List.forall_mem_cons] at hitem
    have hfuel : fields.length < (writeFields fields ++ rest).length + 1 := by
      have hlength := length_lt_length_writeFields fields
      rw [List.length_append]
      omega
    have hrest := fieldsAfter_writeFields hitem.2 hfuel rest
    have hf := field_write hitem.1 k (endsNumber_writeFields fields rest)
    rw [write, List.tail_cons, writeString_eq_cons, List.cons_append, List.cons_append, objectBody,
      skipBlanks_cons rfl]
    simp only [List.append_assoc, List.cons_append, hf, hrest, bind, Except.bind, if_false,
      reduceIte, Char.reduceEq]
    rfl

/-! ### Values -/

theorem readsBack_null (d : Nat) :
  ReadsBack (value d) null
  := by
  intro rest _
  rw [write, List.cons_append, value, skipBlanks_cons rfl]
  rfl

theorem readsBack_bool (d : Nat) (b : Bool) :
  ReadsBack (value d) (bool b)
  := by
  intro rest _
  cases b with
  | false =>
    rw [write, List.cons_append, value, skipBlanks_cons rfl]
    rfl
  | true =>
    rw [write, List.cons_append, value, skipBlanks_cons rfl]
    rfl

/-- A string is read from what it is written as. -/
theorem readsBack_string (d : Nat) (s : String) :
  ReadsBack (value d) (string s)
  := by
  intro rest _
  have hread := quoted_writeString s rest
  rw [write, writeString_eq_cons, List.cons_append, value, skipBlanks_cons rfl]
  simp only [Char.reduceEq, Char.reduceIsDigit, Bool.false_eq_true, if_false, reduceIte, hread, bind,
    Except.bind]
  rfl

/-- An integer is read from what it is written as. -/
theorem readsBack_int (d : Nat) (i : WideInt) :
  ReadsBack (value d) (int i)
  := by
  intro rest hrest
  have hlower := i.lower
  have hupper := i.upper
  have hfits : i.val.natAbs < 18446744073709551616 := by omega
  have hread := number_toDigits hfits hrest (decide (i.val < 0))
  rw [ofLiteral_natAbs] at hread
  rw [write, writeInt]
  split_ifs with hneg
  · rw [decide_eq_true hneg] at hread
    rw [List.cons_append, value, skipBlanks_cons rfl]
    apply hread
  · rw [decide_eq_false hneg] at hread
    obtain ⟨c, ds, hds, hc⟩ := toDigits_eq_cons i.val.natAbs
    rw [hds, List.cons_append] at hread ⊢
    rw [value, skipBlanks_cons (not_isBlank_of_isDigit hc)]
    simp only [ne_of_isDigit hc (d := 'n') rfl, ne_of_isDigit hc (d := 't') rfl,
      ne_of_isDigit hc (d := 'f') rfl, ne_of_isDigit hc (d := '-') rfl, hc, if_false, if_true]
    apply hread

/-- An array is read from what it is written as, one level deeper than its items. -/
theorem readsBack_array {d : Nat} {items : List Json} (hstart : ∀ v ∈ items, v.IsIntegral)
    (hitem : ∀ v ∈ items, ReadsBack (value d) v) :
  ReadsBack (value (d + 1)) (array items)
  := by
  intro rest _
  have hwrite : (array items).write = '[' :: (array items).write.tail := by
    cases items with
    | nil => rfl
    | cons => rfl
  have hread := arrayBody_write hstart hitem rest
  rw [hwrite, List.cons_append, value, skipBlanks_cons rfl]
  simp only [Char.reduceEq, Char.reduceIsDigit, Bool.false_eq_true, if_false, reduceIte, hread, bind,
    Except.bind]
  rfl

/-- An object that repeats no key is read from what it is written as, one level deeper than its
fields. -/
theorem readsBack_object {d : Nat} {fields : List (String × Json)}
    (hkeys : (fields.map Prod.fst).Nodup) (hitem : ∀ f ∈ fields, ReadsBack (value d) f.2) :
  ReadsBack (value (d + 1)) (object fields)
  := by
  intro rest _
  have hwrite : (object fields).write = '\x7b' :: (object fields).write.tail := by
    cases fields with
    | nil => rfl
    | cons => rfl
  have hread := objectBody_write hitem rest
  rw [hwrite, List.cons_append, value, skipBlanks_cons rfl]
  simp only [Char.reduceEq, Char.reduceIsDigit, Bool.false_eq_true, if_false, reduceIte, hread, bind,
    Except.bind, Table.entries_ofList hkeys]
  rfl

/-- The text of a value is read as that value, if it is not nested too deep. -/
theorem readsBack_value {d : Nat} {v : Json} (hint : v.IsIntegral) (hkeys : v.HasDistinctKeys)
    (hdepth : v.depth ≤ d) :
  ReadsBack (value d) v
  := by
  match v, d with
  | null, d => apply readsBack_null
  | bool b, d => apply readsBack_bool
  | int i, d => apply readsBack_int
  | float x, d => exact absurd hint (not_isIntegral_float x)
  | string s, d => apply readsBack_string
  | array items, d + 1 =>
    rw [isIntegral_array_iff] at hint
    rw [hasDistinctKeys_array_iff] at hkeys
    have hdepth := depthOfItems_le_iff.mp (Nat.le_of_succ_le_succ hdepth)
    apply readsBack_array hint
    intro v hv
    apply readsBack_value (hint v hv) (hkeys v hv) (hdepth v hv)
  | object fields, d + 1 =>
    rw [isIntegral_object_iff] at hint
    rw [hasDistinctKeys_object_iff] at hkeys
    have hdepth := depthOfFields_le_iff.mp (Nat.le_of_succ_le_succ hdepth)
    apply readsBack_object hkeys.1
    intro f hf
    apply readsBack_value (hint f hf) (hkeys.2 f hf) (hdepth f hf)
  termination_by d

/-- A whole text is read as the value it was written from. -/
theorem document_write {v : Json} (hint : v.IsIntegral) (hkeys : v.HasDistinctKeys)
    (hdepth : v.depth ≤ maxDepth) :
  document v.write = .ok v
  := by
  have hread := readsBack_value hint hkeys hdepth [] endsNumber_nil
  rw [List.append_nil] at hread
  simp only [document, hread, bind, Except.bind]
  rfl

/-- A value without doubles and repeated keys that is not nested too deep is parsed from what it is
rendered as. -/
theorem parse_render {v : Json} (hint : v.IsIntegral) (hkeys : v.HasDistinctKeys)
    (hdepth : v.depth ≤ maxDepth) :
  parse v.render = .ok v
  := by
  rw [parse, render, String.toList_ofList, document_write hint hkeys hdepth]

end InteractionRouting.Json
