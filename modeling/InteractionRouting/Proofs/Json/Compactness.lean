import InteractionRouting.Proofs.Json.Derivation
import InteractionRouting.Proofs.Json.Numerals

/-!
# Written text is no longer than what was read

JSON text may hold blanks, escapes that are not needed and keys that are repeated.  Whatever a
value was read from, it is written with no more characters, unless there is a double in it.  An
object that was read repeats no key.
-/

namespace InteractionRouting.Json

open Wire (exists_of_bind_eq_ok)

/-! ### The length of arrays and objects -/

/-- The characters of items, each with a comma before it. -/
def itemsSpan (vs : List Json) : Nat := (vs.map fun v => v.span + 1).sum

/-- The characters of a field. -/
def fieldSpan (f : String × Json) : Nat := (writeString f.1.toList).length + 1 + f.2.span

/-- The characters of fields, each with a comma before it. -/
def fieldsSpan (fs : List (String × Json)) : Nat := (fs.map fun f => fieldSpan f + 1).sum

@[simp]
theorem itemsSpan_nil :
  itemsSpan [] = 0
  := rfl

/-- The characters of items are those of the first, with its comma, and those of the others. -/
@[simp]
theorem itemsSpan_cons (v : Json) (vs : List Json) :
  itemsSpan (v :: vs) = v.span + 1 + itemsSpan vs
  := by
  rw [itemsSpan, List.map_cons, List.sum_cons, itemsSpan]

@[simp]
theorem fieldsSpan_nil :
  fieldsSpan [] = 0
  := rfl

/-- The characters of fields are those of the first, with its colon and its comma, and those of the
others. -/
@[simp]
theorem fieldsSpan_cons (k : String) (v : Json) (fs : List (String × Json)) :
  fieldsSpan ((k, v) :: fs) = (writeString k.toList).length + 1 + v.span + 1 + fieldsSpan fs
  := by
  rw [fieldsSpan, List.map_cons, List.sum_cons, fieldsSpan, fieldSpan]

/-- Items without doubles are written with as many characters as are counted, and a bracket. -/
theorem length_writeItems {vs : List Json} (h : ∀ v ∈ vs, v.IsIntegral) :
  (writeItems vs).length = itemsSpan vs + 1
  := by
  induction vs with
  | nil => rfl
  | cons v vs ih =>
    obtain ⟨hv, hvs⟩ := List.forall_mem_cons.mp h
    rw [writeItems, List.length_cons, List.length_append, ih hvs, itemsSpan_cons,
      span_of_isIntegral hv]
    omega

/-- Fields without doubles are written with as many characters as are counted, and a brace. -/
theorem length_writeFields {fs : List (String × Json)} (h : ∀ f ∈ fs, f.2.IsIntegral) :
  (writeFields fs).length = fieldsSpan fs + 1
  := by
  induction fs with
  | nil => rfl
  | cons f fs ih =>
    obtain ⟨k, v⟩ := f
    obtain ⟨hv, hfs⟩ := List.forall_mem_cons.mp h
    have hv : v.IsIntegral := hv
    rw [writeFields, List.length_cons, List.length_append, List.length_cons, List.length_append,
      ih hfs, fieldsSpan_cons, span_of_isIntegral hv]
    omega

/-- Two brackets stand around the items, and there is no comma before the first. -/
theorem span_array_le (vs : List Json) :
  (array vs).span ≤ max 1 (itemsSpan vs) + 1
  := by
  by_cases h : (array vs).IsIntegral
  · rw [span_of_isIntegral h]
    rw [isIntegral_array_iff] at h
    cases vs with
    | nil => exact Nat.le_refl 2
    | cons v vs =>
      obtain ⟨hv, hvs⟩ := List.forall_mem_cons.mp h
      rw [write, List.length_cons, List.length_append, length_writeItems hvs, itemsSpan_cons,
        span_of_isIntegral hv]
      omega
  · rw [span_of_not_isIntegral h]
    apply Nat.zero_le

/-- An object is written with the characters of its fields and a brace, of which none stands for the
first comma, or with two braces. -/
theorem span_object_le (fs : List (String × Json)) :
  (object fs).span ≤ max 1 (fieldsSpan fs) + 1
  := by
  by_cases h : (object fs).IsIntegral
  · rw [span_of_isIntegral h]
    rw [isIntegral_object_iff] at h
    cases fs with
    | nil => exact Nat.le_refl 2
    | cons f fs =>
      obtain ⟨k, v⟩ := f
      obtain ⟨hv, hfs⟩ := List.forall_mem_cons.mp h
      have hv : v.IsIntegral := hv
      rw [write, List.length_cons, List.length_append, List.length_cons, List.length_append,
        length_writeFields hfs, fieldsSpan_cons, span_of_isIntegral hv]
      omega
  · rw [span_of_not_isIntegral h]
    apply Nat.zero_le

/-- A key that is set again does not add to the fields: what it had before is dropped. -/
theorem fieldsSpan_insertEntry_le (k : String) (v : Json) (fs : List (String × Json)) :
  fieldsSpan (Table.insertEntry k v fs) ≤ fieldsSpan ((k, v) :: fs)
  := by
  induction fs with
  | nil => exact Nat.le_refl _
  | cons f fs ih =>
    obtain ⟨k', v'⟩ := f
    rw [Table.insertEntry]
    split_ifs with hk
    · rw [hk, fieldsSpan_cons, fieldsSpan_cons, fieldsSpan_cons]
      omega
    · rw [fieldsSpan_cons, fieldsSpan_cons, fieldsSpan_cons]
      rw [fieldsSpan_cons] at ih
      omega

/-- Where the later of two values of a key counts, the fields do not become longer. -/
theorem fieldsSpan_entries_ofList_le (fs : List (String × Json)) :
  fieldsSpan (Table.ofList fs).entries ≤ fieldsSpan fs
  := by
  have hfoldl (fs : List (String × Json)) (t : Table Json) :
      fieldsSpan (fs.foldl (fun t f => t.insert f.1 f.2) t).entries
        ≤ fieldsSpan t.entries + fieldsSpan fs := by
    induction fs generalizing t with
    | nil => exact Nat.le_refl _
    | cons f fs ih =>
      obtain ⟨k, v⟩ := f
      have hinsert := fieldsSpan_insertEntry_le k v t.entries
      rw [fieldsSpan_cons] at hinsert
      rw [List.foldl_cons, fieldsSpan_cons]
      apply Nat.le_trans (ih (t.insert k v))
      have hentries : (t.insert k v).entries = Table.insertEntry k v t.entries := rfl
      rw [hentries]
      omega
  have h := hfoldl fs Table.empty
  rw [Table.empty, fieldsSpan_nil, Nat.zero_add] at h
  apply h

section

variable {item : Reader Json}

/-- Items that follow others take what they are written with, commas and bracket included. -/
theorem takes_itemsAfter (h : Takes item span) (fuel : Nat) :
  Takes (itemsAfter item fuel) fun vs => itemsSpan vs + 1
  := by
  intro cs vs rest hread
  induction fuel generalizing cs vs with
  | zero => contradiction
  | succ fuel ih =>
    dsimp only
    obtain ⟨rfl, hrest⟩ | ⟨v, vs', cs', rest', rfl, hcs', hv, hvs⟩ := itemsAfter_eq_ok hread
    · rw [itemsSpan_nil]
      omega
    · have hitem := h hv
      have hitems : itemsSpan vs' + 1 + rest.length ≤ rest'.length := ih hvs
      rw [itemsSpan_cons]
      omega

/-- The items of an array take what they are written with, and at least a bracket. -/
theorem takes_arrayBody (h : Takes item span) :
  Takes (arrayBody item) fun vs => max 1 (itemsSpan vs)
  := by
  intro cs vs rest hread
  dsimp only
  obtain ⟨rfl, hrest⟩ | ⟨v, vs', cs', rest', fuel, rfl, hcs', hv, hvs⟩ := arrayBody_eq_ok hread
  · rw [itemsSpan_nil]
    omega
  · have hitem := h hv
    have hitems : itemsSpan vs' + 1 + rest.length ≤ rest'.length := takes_itemsAfter h fuel hvs
    rw [itemsSpan_cons]
    omega

/-- The opening quote of the key is not counted. -/
theorem length_of_field_eq_ok (h : Takes item span) {cs rest : List Char} {k : String} {v : Json}
    (hread : field item cs = .ok ((k, v), rest)) :
  (writeString k.toList).length + v.span + rest.length ≤ cs.length
  := by
  obtain ⟨cs', cs'', hkey, hcs'', hv⟩ := field_eq_ok hread
  have hquoted : (writeString k.toList).length - 1 + cs'.length ≤ cs.length := takes_quoted hkey
  have hitem := h hv
  omega

/-- Fields that follow others take what they are written with, commas and brace included. -/
theorem takes_fieldsAfter (h : Takes item span) (fuel : Nat) :
  Takes (fieldsAfter item fuel) fun fs => fieldsSpan fs + 1
  := by
  intro cs fs rest hread
  induction fuel generalizing cs fs with
  | zero => contradiction
  | succ fuel ih =>
    dsimp only
    obtain ⟨rfl, hrest⟩ | ⟨k, v, fs', cs', rest', rfl, hcs', hf, hfs⟩ := fieldsAfter_eq_ok hread
    · rw [fieldsSpan_nil]
      omega
    · have hfield := length_of_field_eq_ok h hf
      have hfields : fieldsSpan fs' + 1 + rest.length ≤ rest'.length := ih hfs
      rw [fieldsSpan_cons]
      omega

/-- The fields of an object take what they are written with, and at least a brace. -/
theorem takes_objectBody (h : Takes item span) :
  Takes (objectBody item) fun fs => max 1 (fieldsSpan fs)
  := by
  intro cs fs rest hread
  dsimp only
  obtain ⟨rfl, hrest⟩ | ⟨k, v, fs', cs', rest', fuel, rfl, hcs', hf, hfs⟩ := objectBody_eq_ok hread
  · rw [fieldsSpan_nil]
    omega
  · have hfield := length_of_field_eq_ok h hf
    have hfields : fieldsSpan fs' + 1 + rest.length ≤ rest'.length := takes_fieldsAfter h fuel hfs
    rw [fieldsSpan_cons]
    omega

/-! ### What holds of all items -/

variable {P : Json → Prop}

/-- What holds of each item that is read holds of all that follow others. -/
theorem gives_itemsAfter (h : Gives item P) (fuel : Nat) :
  Gives (itemsAfter item fuel) fun vs => ∀ v ∈ vs, P v
  := by
  intro cs vs rest hread
  induction fuel generalizing cs vs with
  | zero => contradiction
  | succ fuel ih =>
    obtain ⟨rfl, -⟩ | ⟨v, vs', cs', rest', rfl, -, hv, hvs⟩ := itemsAfter_eq_ok hread
    · apply List.forall_mem_nil
    · apply List.forall_mem_cons.mpr ⟨h hv, ih hvs⟩

/-- What holds of each item that is read holds of all items of an array. -/
theorem gives_arrayBody (h : Gives item P) :
  Gives (arrayBody item) fun vs => ∀ v ∈ vs, P v
  := by
  intro cs vs rest hread
  obtain ⟨rfl, -⟩ | ⟨v, vs', cs', rest', fuel, rfl, -, hv, hvs⟩ := arrayBody_eq_ok hread
  · apply List.forall_mem_nil
  · apply List.forall_mem_cons.mpr ⟨h hv, gives_itemsAfter h fuel hvs⟩

/-- What holds of each item that is read holds of the value of a field. -/
theorem gives_field (h : Gives item P) :
  Gives (field item) fun f => P f.2
  := by
  rintro cs ⟨k, v⟩ rest hread
  obtain ⟨cs', cs'', -, -, hv⟩ := field_eq_ok hread
  apply h hv

/-- What holds of each item that is read holds of the values of all fields that follow others. -/
theorem gives_fieldsAfter (h : Gives item P) (fuel : Nat) :
  Gives (fieldsAfter item fuel) fun fs => ∀ f ∈ fs, P f.2
  := by
  intro cs fs rest hread
  induction fuel generalizing cs fs with
  | zero => contradiction
  | succ fuel ih =>
    obtain ⟨rfl, -⟩ | ⟨k, v, fs', cs', rest', rfl, -, hf, hfs⟩ := fieldsAfter_eq_ok hread
    · apply List.forall_mem_nil
    · rw [List.forall_mem_cons]
      exact ⟨gives_field h hf, ih hfs⟩

/-- What holds of each item that is read holds of the values of all fields of an object. -/
theorem gives_objectBody (h : Gives item P) :
  Gives (objectBody item) fun fs => ∀ f ∈ fs, P f.2
  := by
  intro cs fs rest hread
  obtain ⟨rfl, -⟩ | ⟨k, v, fs', cs', rest', fuel, rfl, -, hf, hfs⟩ := objectBody_eq_ok hread
  · apply List.forall_mem_nil
  · rw [List.forall_mem_cons]
    exact ⟨gives_field h hf, gives_fieldsAfter h fuel hfs⟩

end

/-! ### Values -/

/-- All characters of a string count. -/
theorem span_string (s : String) :
  (string s).span = (writeString s.toList).length
  := span_of_isIntegral (v := string s) rfl

/-- A value takes the characters that it is written with, if the values inside it do. -/
theorem length_le_of_reads {d : Nat} {cs rest : List Char} {v : Json} (h : Reads d cs v rest)
    (hinner : ∀ d', d = d' + 1 → Takes (value d') span) :
  v.span + rest.length ≤ cs.length
  := by
  cases h with
  | null | true | false =>
    rw [List.length_append]
    exact Nat.le_refl _
  | negative h => exact span_number_le h
  | number h => exact span_number_le h
  | string h =>
    have hs := takes_quoted h
    dsimp only at hs
    rw [span_string, List.length_cons]
    omega
  | @array _ _ _ vs h =>
    have hspan := span_array_le vs
    have hvs := takes_arrayBody (hinner _ rfl) h
    dsimp only at hvs
    rw [List.length_cons]
    omega
  | @object _ _ _ fs h =>
    have hspan := span_object_le (Table.ofList fs).entries
    have hdistinct := fieldsSpan_entries_ofList_le fs
    have hfs := takes_objectBody (hinner _ rfl) h
    dsimp only at hfs
    rw [List.length_cons]
    omega

/-- A value takes at least the characters that it is written with. -/
theorem takes_value (d : Nat) :
  Takes (value d) span
  := by
  have hstep {d : Nat} (hinner : ∀ d', d = d' + 1 → Takes (value d') span) :
      Takes (value d) span := by
    intro cs v rest h
    apply Nat.le_trans (length_le_of_reads (reads_of_value h) hinner)
    apply length_skipBlanks_le
  induction d with
  | zero =>
    apply hstep
    rintro d' ⟨⟩
  | succ d ih =>
    apply hstep
    rintro d' ⟨⟩
    exact ih

/-- A value repeats no key, if the values inside it do not. -/
theorem hasDistinctKeys_of_reads {d : Nat} {cs rest : List Char} {v : Json}
    (h : Reads d cs v rest) (hinner : ∀ d', d = d' + 1 → Gives (value d') HasDistinctKeys) :
  v.HasDistinctKeys
  := by
  cases h with
  | null | true | false | string => rfl
  | negative h => exact gives_number _ h
  | number h => exact gives_number _ h
  | array h =>
    rw [hasDistinctKeys_array_iff]
    exact gives_arrayBody (hinner _ rfl) h
  | object h =>
    rw [hasDistinctKeys_object_iff]
    use Table.nodup _
    intro f hf
    exact gives_objectBody (hinner _ rfl) h f (Table.mem_of_mem_entries_ofList hf)

/-- Of a key that is repeated only the last value counts. -/
theorem gives_value (d : Nat) :
  Gives (value d) HasDistinctKeys
  := by
  induction d with
  | zero =>
    intro cs v rest h
    apply hasDistinctKeys_of_reads (reads_of_value h)
    rintro d' ⟨⟩
  | succ d ih =>
    intro cs v rest h
    apply hasDistinctKeys_of_reads (reads_of_value h)
    rintro d' ⟨⟩
    exact ih

/-- What is read of a whole text. -/
theorem exists_value_of_parse {text : String} {v : Json} (h : parse text = .ok v) :
  ∃ rest, value maxDepth text.toList = .ok (v, rest)
  := by
  unfold parse at h
  split at h
  · next v' hdocument =>
    obtain rfl := Except.ok.inj h
    obtain ⟨⟨v'', rest⟩, hvalue, h⟩ := exists_of_bind_eq_ok hdocument
    dsimp only at h
    split at h
    · obtain rfl := Except.ok.inj h
      exact ⟨rest, hvalue⟩
    · contradiction
  · contradiction

/-- A value without doubles is written with no more characters than it was read from. -/
theorem length_write_le_of_parse {text : String} {v : Json} (h : parse text = .ok v)
    (hint : v.IsIntegral) :
  v.write.length ≤ text.length
  := by
  obtain ⟨rest, hvalue⟩ := exists_value_of_parse h
  have hlength := takes_value maxDepth hvalue
  rw [span_of_isIntegral hint, String.length_toList] at hlength
  omega

/-- No object that was read repeats a key. -/
theorem hasDistinctKeys_of_parse {text : String} {v : Json} (h : parse text = .ok v) :
  v.HasDistinctKeys
  := by
  obtain ⟨rest, hvalue⟩ := exists_value_of_parse h
  apply gives_value maxDepth hvalue

end InteractionRouting.Json
