import InteractionRouting.Proofs.Json.Consumption

/-!
# The ways to read a value

After the blanks before it, there is one way to read a value for each of its kinds, and two for a
number, as it may have a sign.  Arrays and objects are read item by item.
-/

namespace InteractionRouting.Json

open Wire (exists_of_bind_eq_ok)

/-! ### The ways to read arrays and objects -/

/-- After an item there is a bracket, or a comma, one more item and what follows that. -/
theorem itemsAfter_eq_ok {item : Reader Json} {fuel : Nat} {cs rest : List Char} {vs : List Json}
    (h : itemsAfter item (fuel + 1) cs = .ok (vs, rest)) :
  (vs = [] ∧ rest.length + 1 ≤ cs.length)
    ∨ ∃ v vs' cs' rest', vs = v :: vs' ∧ cs'.length + 1 ≤ cs.length
      ∧ item cs' = .ok (v, rest') ∧ itemsAfter item fuel rest' = .ok (vs', rest)
  := by
  have hblanks := length_skipBlanks_le cs
  rw [itemsAfter] at h
  split at h
  · contradiction
  · next c after hcs =>
    rw [hcs, List.length_cons] at hblanks
    split_ifs at h
    · obtain ⟨rfl, rfl⟩ := Prod.mk.inj (Except.ok.inj h)
      exact .inl ⟨rfl, hblanks⟩
    · have hafter := length_skipBlanks_le after
      split at h
      · contradiction
      · next d more hmore =>
        rw [hmore] at hafter
        split_ifs at h
        · contradiction
        · obtain ⟨⟨v, rest'⟩, hv, h⟩ := exists_of_bind_eq_ok h
          obtain ⟨⟨vs', rest''⟩, hvs, h⟩ := exists_of_bind_eq_ok h
          obtain ⟨rfl, rfl⟩ := Prod.mk.inj (Except.ok.inj h)
          exact .inr ⟨v, vs', d :: more, rest', rfl, by omega, hv, hvs⟩
    · contradiction

/-- In an array there is a bracket, or an item and what follows that. -/
theorem arrayBody_eq_ok {item : Reader Json} {cs rest : List Char} {vs : List Json}
    (h : arrayBody item cs = .ok (vs, rest)) :
  (vs = [] ∧ rest.length + 1 ≤ cs.length)
    ∨ ∃ v vs' cs' rest' fuel, vs = v :: vs' ∧ cs'.length ≤ cs.length
      ∧ item cs' = .ok (v, rest') ∧ itemsAfter item fuel rest' = .ok (vs', rest)
  := by
  have hblanks := length_skipBlanks_le cs
  rw [arrayBody] at h
  split at h
  · contradiction
  · next c after hcs =>
    rw [hcs] at hblanks
    split_ifs at h
    · obtain ⟨rfl, rfl⟩ := Prod.mk.inj (Except.ok.inj h)
      exact .inl ⟨rfl, hblanks⟩
    · obtain ⟨⟨v, rest'⟩, hv, h⟩ := exists_of_bind_eq_ok h
      obtain ⟨⟨vs', rest''⟩, hvs, h⟩ := exists_of_bind_eq_ok h
      obtain ⟨rfl, rfl⟩ := Prod.mk.inj (Except.ok.inj h)
      exact .inr ⟨v, vs', c :: after, rest', _, rfl, hblanks, hv, hvs⟩

/-- A field is a key, a colon and a value. -/
theorem field_eq_ok {item : Reader Json} {cs rest : List Char} {k : String} {v : Json}
    (h : field item cs = .ok ((k, v), rest)) :
  ∃ cs' cs'', quoted cs = .ok (k, cs') ∧ cs''.length + 1 ≤ cs'.length ∧ item cs'' = .ok (v, rest)
  := by
  obtain ⟨⟨key, cs'⟩, hkey, h⟩ := exists_of_bind_eq_ok h
  have hblanks := length_skipBlanks_le cs'
  dsimp only at h
  split at h
  · contradiction
  · next c after hcs =>
    rw [hcs, List.length_cons] at hblanks
    split_ifs at h
    · obtain ⟨⟨v', rest'⟩, hv, h⟩ := exists_of_bind_eq_ok h
      obtain ⟨hf, rfl⟩ := Prod.mk.inj (Except.ok.inj h)
      obtain ⟨rfl, rfl⟩ := Prod.mk.inj hf
      exact ⟨cs', after, hkey, hblanks, hv⟩
    · contradiction

/-- After a field there is a brace, or a comma, one more field and what follows that. -/
theorem fieldsAfter_eq_ok {item : Reader Json} {fuel : Nat} {cs rest : List Char}
    {fs : List (String × Json)} (h : fieldsAfter item (fuel + 1) cs = .ok (fs, rest)) :
  (fs = [] ∧ rest.length + 1 ≤ cs.length)
    ∨ ∃ k v fs' cs' rest', fs = (k, v) :: fs' ∧ cs'.length + 2 ≤ cs.length
      ∧ field item cs' = .ok ((k, v), rest') ∧ fieldsAfter item fuel rest' = .ok (fs', rest)
  := by
  have hblanks := length_skipBlanks_le cs
  rw [fieldsAfter] at h
  split at h
  · contradiction
  · next c after hcs =>
    rw [hcs, List.length_cons] at hblanks
    split_ifs at h
    · obtain ⟨rfl, rfl⟩ := Prod.mk.inj (Except.ok.inj h)
      exact .inl ⟨rfl, hblanks⟩
    · have hafter := length_skipBlanks_le after
      split at h
      · contradiction
      · next d more hmore =>
        rw [hmore, List.length_cons] at hafter
        split_ifs at h
        · obtain ⟨⟨⟨k, v⟩, rest'⟩, hf, h⟩ := exists_of_bind_eq_ok h
          obtain ⟨⟨fs', rest''⟩, hfs, h⟩ := exists_of_bind_eq_ok h
          obtain ⟨rfl, rfl⟩ := Prod.mk.inj (Except.ok.inj h)
          exact .inr ⟨k, v, fs', more, rest', rfl, by omega, hf, hfs⟩
        · contradiction
        · contradiction
    · contradiction

/-- In an object there is a brace, or a field and what follows that. -/
theorem objectBody_eq_ok {item : Reader Json} {cs rest : List Char} {fs : List (String × Json)}
    (h : objectBody item cs = .ok (fs, rest)) :
  (fs = [] ∧ rest.length + 1 ≤ cs.length)
    ∨ ∃ k v fs' cs' rest' fuel, fs = (k, v) :: fs' ∧ cs'.length + 1 ≤ cs.length
      ∧ field item cs' = .ok ((k, v), rest') ∧ fieldsAfter item fuel rest' = .ok (fs', rest)
  := by
  have hblanks := length_skipBlanks_le cs
  rw [objectBody] at h
  split at h
  · contradiction
  · next c after hcs =>
    rw [hcs, List.length_cons] at hblanks
    split_ifs at h
    · obtain ⟨rfl, rfl⟩ := Prod.mk.inj (Except.ok.inj h)
      exact .inl ⟨rfl, hblanks⟩
    · obtain ⟨⟨⟨k, v⟩, rest'⟩, hf, h⟩ := exists_of_bind_eq_ok h
      obtain ⟨⟨fs', rest''⟩, hfs, h⟩ := exists_of_bind_eq_ok h
      obtain ⟨rfl, rfl⟩ := Prod.mk.inj (Except.ok.inj h)
      exact .inr ⟨k, v, fs', after, rest', _, rfl, hblanks, hf, hfs⟩
    · contradiction

/-- The ways to read a value, after the blanks before it. -/
inductive Reads : Nat → List Char → Json → List Char → Prop where
  | null {d : Nat} {rest : List Char} : Reads d (['n', 'u', 'l', 'l'] ++ rest) null rest
  | true {d : Nat} {rest : List Char} : Reads d (['t', 'r', 'u', 'e'] ++ rest) (bool true) rest
  | false {d : Nat} {rest : List Char} :
      Reads d (['f', 'a', 'l', 's', 'e'] ++ rest) (bool false) rest
  | negative {d : Nat} {cs rest : List Char} {v : Json} (h : number true cs = .ok (v, rest)) :
      Reads d ('-' :: cs) v rest
  | number {d : Nat} {cs rest : List Char} {v : Json} (h : number false cs = .ok (v, rest)) :
      Reads d cs v rest
  | string {d : Nat} {cs rest : List Char} {s : String} (h : quoted cs = .ok (s, rest)) :
      Reads d ('"' :: cs) (string s) rest
  | array {d : Nat} {cs rest : List Char} {vs : List Json}
      (h : arrayBody (value d) cs = .ok (vs, rest)) : Reads (d + 1) ('[' :: cs) (array vs) rest
  | object {d : Nat} {cs rest : List Char} {fs : List (String × Json)}
      (h : objectBody (value d) cs = .ok (fs, rest)) :
      Reads (d + 1) ('\x7b' :: cs) (object (Table.ofList fs).entries) rest

/-- A value that is read is read in one of the ways there are. -/
theorem reads_of_value {d : Nat} {cs rest : List Char} {v : Json}
    (h : value d cs = .ok (v, rest)) :
  Reads d (skipBlanks cs) v rest
  := by
  unfold value at h
  split at h
  · contradiction
  · next c after hcs =>
    rw [hcs]
    split_ifs at h with hn ht hf hminus hdigit hquote hbracket hbrace
    · obtain ⟨rfl, rfl⟩ := eq_of_word_eq_ok h
      rw [hn]
      exact .null
    · obtain ⟨rfl, rfl⟩ := eq_of_word_eq_ok h
      rw [ht]
      exact .true
    · obtain ⟨rfl, rfl⟩ := eq_of_word_eq_ok h
      rw [hf]
      exact .false
    · rw [hminus]
      exact .negative h
    · exact .number h
    · obtain ⟨⟨s, rest'⟩, hs, h⟩ := exists_of_bind_eq_ok h
      obtain ⟨rfl, rfl⟩ := Prod.mk.inj (Except.ok.inj h)
      rw [hquote]
      exact .string hs
    · cases d with
      | zero => contradiction
      | succ d =>
        obtain ⟨⟨vs, rest'⟩, hvs, h⟩ := exists_of_bind_eq_ok h
        obtain ⟨rfl, rfl⟩ := Prod.mk.inj (Except.ok.inj h)
        rw [hbracket]
        exact .array hvs
    · cases d with
      | zero => contradiction
      | succ d =>
        obtain ⟨⟨fs, rest'⟩, hfs, h⟩ := exists_of_bind_eq_ok h
        obtain ⟨rfl, rfl⟩ := Prod.mk.inj (Except.ok.inj h)
        rw [hbrace]
        exact .object hfs
    · contradiction

end InteractionRouting.Json
