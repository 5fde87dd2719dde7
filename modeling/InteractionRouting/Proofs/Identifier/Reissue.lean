import InteractionRouting.Proofs.Identifier.RoundTrip
import InteractionRouting.Proofs.Json.Compactness

/-!
# Identifiers that were read can be written

Many texts are read as one identifier: its data may be written with blanks, with escapes that are
not needed, or with keys that are repeated.  What the identifier is written as is not longer than
any of these texts, unless there is a double in its data.
-/

namespace InteractionRouting.Identifier

/-- What is read is a name alone, or a name and the text of its data. -/
theorem exists_of_read {text : String} {i : Identifier} (h : read text = .ok i) :
  (text.toList = '0' :: ':' :: i.name.toList ∧ i.data = .null)
    ∨ ∃ payload, text.toList = '0' :: ':' :: (i.name.toList ++ ':' :: payload)
      ∧ readData payload = .ok i.data
  := by
  unfold read at h
  split at h
  case h_1 rest htext =>
    obtain ⟨data, hdata, rfl⟩ := Wire.exists_of_map_eq_ok h
    have hsplit := rest.takeWhile_append_dropWhile (p := (· ≠ ':'))
    rw [htext, String.toList_ofList]
    cases hafter : rest.dropWhile (· ≠ ':') with
    | nil =>
      rw [hafter] at hdata hsplit
      rw [List.append_nil] at hsplit
      left
      rw [hsplit]
      exact ⟨rfl, (Except.ok.inj hdata).symm⟩
    | cons c payload =>
      obtain rfl : c = ':' := by
        have hc := List.head?_dropWhile_not (· ≠ ':') rest
        rw [hafter] at hc
        simpa using hc
      rw [hafter] at hdata hsplit
      right
      use payload
      rw [hsplit]
      exact ⟨rfl, hdata⟩
  case h_2 => contradiction

/-- The text of the data is empty, or it is JSON. -/
theorem parse_of_readData {payload : List Char} {data : Json} (h : readData payload = .ok data) :
  data = .null ∨ Json.parse (String.ofList payload) = .ok data
  := by
  unfold readData at h
  split_ifs at h
  · left
    symm
    exact Except.ok.inj h
  · right
    exact Wire.eq_ok_of_mapError_eq_ok h

/-- The data of an identifier that was read repeat no key. -/
theorem hasDistinctKeys_of_read {text : String} {i : Identifier} (h : read text = .ok i) :
  i.data.HasDistinctKeys
  := by
  obtain ⟨-, hnull⟩ | ⟨payload, -, hdata⟩ := exists_of_read h
  · rw [hnull]
    rfl
  · obtain hnull | hparse := parse_of_readData hdata
    · rw [hnull]
      rfl
    · exact Json.hasDistinctKeys_of_parse hparse

/-- What an identifier is written as is not longer than what it was read from. -/
theorem length_chars_le_of_read {text : String} {i : Identifier} (h : read text = .ok i)
    (hint : i.data.IsIntegral) :
  (chars i.name (some i.data)).length ≤ text.length
  := by
  rw [← String.length_toList]
  cases hnull : i.data.isNull with
  | true =>
    have hdata : i.data = .null := by
      cases hdata : i.data with
      | null => rfl
      | _ =>
        rw [hdata] at hnull
        contradiction
    rw [hdata, chars_null]
    obtain ⟨htext, -⟩ | ⟨payload, htext, -⟩ := exists_of_read h
    · rw [htext]
    · rw [htext]
      simp only [List.length_cons, List.length_append]
      omega
  | false =>
    rw [chars_some _ hnull]
    obtain ⟨-, hdata⟩ | ⟨payload, htext, hdata⟩ := exists_of_read h
    · rw [hdata] at hnull
      contradiction
    · obtain hdata | hparse := parse_of_readData hdata
      · rw [hdata] at hnull
        contradiction
      · have hlength := Json.length_write_le_of_parse hparse hint
        rw [String.length_ofList] at hlength
        rw [htext]
        simp only [List.length_cons, List.length_append]
        omega

/-- Whatever text an identifier was read from, its name holds no delimiter, so the name is never
why it cannot be written.  If there is no double in its data, then it is written with no more
characters than it was read from; if moreover that text was within the budget, it can be written,
and is read as the same identifier again. -/
theorem read_written_again {text : String} {i : Identifier} (h : read text = .ok i) :
  ':' ∉ i.name.toList
    ∧ (∀ name, i.write ≠ .error (.reservedDelimiter name))
    ∧ (i.data.IsIntegral →
        (chars i.name (some i.data)).length ≤ text.length
          ∧ (text.length < budget → ∃ text', i.write = .ok text' ∧ text'.length ≤ text.length
              ∧ read text' = .ok i))
  := by
  have hname := notMem_name_of_read h
  refine ⟨hname, ?_, ?_⟩
  · intro name hwrite
    rw [write, encode, if_neg (by simpa using hname)] at hwrite
    split_ifs at hwrite
    simp at hwrite
  · intro hint
    have hlength := length_chars_le_of_read h hint
    use hlength
    intro hbudget
    have hwrite : i.write = .ok (String.ofList (chars i.name (some i.data))) := by
      rw [write, encode_eq_ok_iff]
      exact ⟨hname, Nat.lt_of_le_of_lt hlength hbudget, rfl⟩
    refine ⟨_, hwrite, ?_, ?_⟩
    · rw [String.length_ofList]
      apply hlength
    · have hbound : (bound (some i.data)).IsIntegral := hint
      apply read_encode hbound (hasDistinctKeys_of_read h) hwrite

/-- Blanks, escapes that are not needed, a pair of surrogates and a key that is repeated. -/
theorem read_written_again_other_spelling :
  let text := "0:é: \x7b \"\\u0061\" : null, \"b\":\"\\ud83d\\ude00\\/\\u000a\" ,\"a\":[ 7 , -10\n] \x7d "
  let i : Identifier :=
    ⟨"é", .object [("a", .array [.ofNat 7, .ofInt (-10)]), ("b", .string "😀/\n")]⟩
  read text = .ok i ∧ ':' ∉ i.name.toList
    ∧ ∃ text', i.write = .ok text' ∧ text'.length ≤ text.length ∧ read text' = .ok i
  := by
  intro text i
  have h : read text = .ok i := by decide +kernel
  obtain ⟨hname, -, hwritten⟩ := read_written_again h
  have hint : i.data.IsIntegral := by decide +kernel
  use h, hname
  apply (hwritten hint).2
  decide +kernel

end InteractionRouting.Identifier
