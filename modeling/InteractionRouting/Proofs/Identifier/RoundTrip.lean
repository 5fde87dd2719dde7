import InteractionRouting.Identifier
import InteractionRouting.Proofs.Json.RoundTrip
import Mathlib.Data.List.TakeWhile

/-!
# Identifiers read back

An identifier that could be written is read as the name and the data it was written from, so
no two of them have one text.  The budget leaves room for a few levels of nesting only, far
fewer than the reader of JSON text goes down.
-/

namespace InteractionRouting.Identifier

/-- The data that are bound, null if none are. -/
abbrev bound (data : Option Json) : Json := data.getD .null

/-! ### Writing -/

/-- An identifier is written when its name is free of the delimiter and it is short. -/
theorem encode_eq_ok_iff {name : String} {data : Option Json} {text : String} :
  encode name data = .ok text
    ↔ ':' ∉ name.toList ∧ (chars name data).length < budget ∧ String.ofList (chars name data) = text
  := by
  unfold encode
  split_ifs with hname hlength
  · simp [List.contains_iff_mem.mp hname]
  · simp [Nat.not_lt.mpr hlength]
  · have hname : ':' ∉ name.toList := fun hmem => hname (List.contains_iff_mem.mpr hmem)
    simp [hname, Nat.not_le.mp hlength]

/-- No data and null are written alike. -/
theorem chars_bound (name : String) (data : Option Json) :
  chars name (some (bound data)) = chars name data
  := by
  cases data with
  | none => rfl
  | some v => rfl

/-- No data at all are written like data that are null. -/
theorem encode_bound (name : String) (data : Option Json) :
  encode name (some (bound data)) = encode name data
  := by
  rw [encode, encode, chars_bound]

/-- The characters of an identifier without data. -/
theorem chars_null (name : String) :
  chars name (some .null) = '0' :: ':' :: name.toList
  := by
  rw [chars, Option.filter_some, if_neg (by simp [Json.isNull]), Option.elim_none, List.append_nil]

/-- The characters of an identifier with data. -/
theorem chars_some (name : String) {v : Json} (h : v.isNull = false) :
  chars name (some v) = '0' :: ':' :: (name.toList ++ ':' :: v.write)
  := by
  rw [chars, Option.filter_some, if_pos (by simp [h]), Option.elim_some]

/-- What fits the budget is not nested deeper than JSON text may be. -/
theorem depth_le_maxDepth {name : String} {v : Json}
    (h : (chars name (some v)).length < budget) :
  v.depth ≤ Json.maxDepth
  := by
  cases hnull : v.isNull with
  | true =>
    cases v with
    | null => exact Nat.zero_le _
    | _ => contradiction
  | false =>
    have hdepth := v.depth_le_length_write
    rw [chars_some name hnull] at h
    simp only [List.length_cons, List.length_append, budget] at h
    simp only [Json.maxDepth]
    omega

/-! ### Reading -/

theorem ne_delimiter {name : List Char} (h : ':' ∉ name) :
  ∀ c ∈ name, decide (c ≠ ':') = true
  := by
  intro c hc
  apply decide_eq_true
  rintro rfl
  apply h hc

/-- A text without a further delimiter is a name without data. -/
theorem read_name {name : List Char} (h : ':' ∉ name) :
  read (String.ofList ('0' :: ':' :: name)) = .ok (plain (String.ofList name))
  := by
  rw [read, String.toList_ofList]
  simp only [List.takeWhile_eq_self_iff.mpr (ne_delimiter h),
    List.dropWhile_eq_nil_iff.mpr (ne_delimiter h)]
  rfl

/-- The name ends at the first delimiter; the data may contain others. -/
theorem read_name_data {name : List Char} (h : ':' ∉ name) (payload : List Char) :
  read (String.ofList ('0' :: ':' :: (name ++ ':' :: payload)))
    = (readData payload).map (⟨String.ofList name, ·⟩)
  := by
  rw [read, String.toList_ofList]
  simp only [List.takeWhile_append_of_pos (ne_delimiter h),
    List.dropWhile_append_of_pos (ne_delimiter h)]
  simp

/-- The name that is read ends before the first delimiter. -/
theorem notMem_name_of_read {text : String} {i : Identifier} (h : read text = .ok i) :
  ':' ∉ i.name.toList
  := by
  unfold read at h
  split at h
  case h_1 rest _ =>
    cases hdata : readData (rest.dropWhile (· ≠ ':')).tail with
    | error error =>
      rw [hdata] at h
      contradiction
    | ok data =>
      rw [hdata] at h
      obtain rfl := Except.ok.inj h
      intro hmem
      rw [String.toList_ofList] at hmem
      simpa using List.mem_takeWhile_imp hmem
  case h_2 => contradiction

/-- The text of data is read as these data. -/
theorem readData_write {v : Json} (hint : v.IsIntegral) (hkeys : v.HasDistinctKeys)
    (hdepth : v.depth ≤ Json.maxDepth) :
  readData v.write = .ok v
  := by
  obtain ⟨c, cs, hwrite, -⟩ := Json.exists_write_eq_cons hint
  have hparse := Json.parse_render hint hkeys hdepth
  rw [Json.render] at hparse
  rw [readData, if_neg (by simp [hwrite]), hparse]
  rfl

/-- The characters of an identifier are read as its name and data. -/
theorem read_chars {name : String} {v : Json} (hname : ':' ∉ name.toList)
    (hint : v.IsIntegral) (hkeys : v.HasDistinctKeys) (hdepth : v.depth ≤ Json.maxDepth) :
  read (String.ofList (chars name (some v))) = .ok ⟨name, v⟩
  := by
  cases hnull : v.isNull with
  | true =>
    cases v with
    | null => rw [chars_null, read_name hname, String.ofList_toList, plain]
    | _ => contradiction
  | false =>
    rw [chars_some name hnull, read_name_data hname, readData_write hint hkeys hdepth,
      String.ofList_toList]
    rfl

/-- What was written fits the budget, and so its data are not nested too deep for the reader. -/
theorem depth_le_of_encode {name : String} {data : Option Json} {text : String}
    (h : encode name data = .ok text) :
  (bound data).depth ≤ Json.maxDepth
  := by
  rw [← encode_bound, encode_eq_ok_iff] at h
  apply depth_le_maxDepth h.2.1

/-- What was written is read as the name and the data. -/
theorem read_encode {name : String} {data : Option Json} {text : String}
    (hint : (bound data).IsIntegral) (hkeys : (bound data).HasDistinctKeys)
    (h : encode name data = .ok text) :
  read text = .ok ⟨name, bound data⟩
  := by
  have hdepth := depth_le_of_encode h
  rw [← encode_bound, encode_eq_ok_iff] at h
  obtain ⟨hname, -, rfl⟩ := h
  apply read_chars hname hint hkeys hdepth

/-- An identifier with data is read as its name and its data. -/
theorem read_of_encode_some {name : String} {data : Json} {text : String}
    (hint : data.IsIntegral) (hkeys : data.HasDistinctKeys)
    (h : encode name (some data) = .ok text) :
  read text = .ok ⟨name, data⟩
  := by
  have hint : (bound (some data)).IsIntegral := hint
  apply read_encode hint hkeys h

/-- An identifier that is written is short, is read as its name and its data, keys in the same
order, and is written from what was read as the same text.  No data and null are written
alike; apart from that no other name and data are written as this text. -/
theorem encode_reads_back {name : String} {data : Option Json} {text : String}
    (hint : (bound data).IsIntegral) (hkeys : (bound data).HasDistinctKeys)
    (h : encode name data = .ok text) :
  text.length < budget
    ∧ (bound data).depth ≤ Json.maxDepth
    ∧ read text = .ok ⟨name, bound data⟩
    ∧ write ⟨name, bound data⟩ = .ok text
    ∧ encode name none = encode name (some .null)
    ∧ ∀ (name' : String) (data' : Option Json),
        (bound data').IsIntegral → (bound data').HasDistinctKeys →
        encode name' data' = .ok text → name' = name ∧ bound data' = bound data
  := by
  have hread := read_encode hint hkeys h
  refine ⟨?_, depth_le_of_encode h, hread, ?_, ?_, ?_⟩
  · obtain ⟨-, hlength, rfl⟩ := encode_eq_ok_iff.mp h
    rw [String.length_ofList]
    apply hlength
  · rw [write, encode_bound, h]
  · symm
    apply encode_bound name none
  · intro name' data' hint' hkeys' h'
    have hread' := read_encode hint' hkeys' h'
    rw [hread, Except.ok.injEq, Identifier.mk.injEq] at hread'
    exact ⟨hread'.1.symm, hread'.2.symm⟩

/-- Nested data with a colon, a quote, a backslash and a line feed in a key, and with the widest
integers of either sign. -/
theorem encode_reads_back_nested :
  let data := Json.object [("a:\"\\\n", .array [.int ⟨18446744073709551615, by decide, by decide⟩,
    .int ⟨-9223372036854775808, by decide, by decide⟩, .object []]), ("😀", .null)]
  let text := "0:é:\x7b\"a:\\\"\\\\\\n\":[18446744073709551615,-9223372036854775808,\x7b\x7d]" ++
    ",\"😀\":null\x7d"
  data.IsIntegral ∧ data.HasDistinctKeys ∧ encode "é" (some data) = .ok text
    ∧ read text = .ok ⟨"é", data⟩
  := by
  intro data text
  have hint : (bound (some data)).IsIntegral := by decide
  have hkeys : (bound (some data)).HasDistinctKeys := by decide
  have h : encode "é" (some data) = .ok text := by decide
  obtain ⟨-, -, hread, -⟩ := encode_reads_back hint hkeys h
  exact ⟨hint, hkeys, h, hread⟩

end InteractionRouting.Identifier
