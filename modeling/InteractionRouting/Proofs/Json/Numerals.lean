import InteractionRouting.Proofs.Json.Consumption
import InteractionRouting.Proofs.Json.Shape
import Mathlib.Algebra.GroupWithZero.Nat

/-!
# What numbers are read from

An integer is written with no more digits than it was read from.  Whatever has a fraction or an
exponent, or does not fit a word, is read as a double.
-/

namespace InteractionRouting.Json

open Wire (exists_of_bind_eq_ok)

/-! ### Doubles -/

/-- A reader reads nothing but doubles, and gives back no more characters than it had. -/
def ReadsFloats (r : Reader Json) : Prop :=
  ∀ ⦃cs : List Char⦄ ⦃v : Json⦄ ⦃rest : List Char⦄, r cs = .ok (v, rest) →
    (∃ x, v = float x) ∧ rest.length ≤ cs.length

/-- A scaled significand is a double. -/
theorem readsFloats_scaled (negative : Bool) (n : Nat) (e : Int) :
  ReadsFloats (scaled negative n e)
  := by
  intro cs v rest h
  unfold scaled at h
  split at h
  · obtain ⟨rfl, rfl⟩ := Prod.mk.inj (Except.ok.inj h)
    exact ⟨⟨_, rfl⟩, Nat.le_refl _⟩
  · contradiction

/-- The digits of an exponent are taken off the text. -/
theorem length_exponentDigits_le (n : Nat) (cs : List Char) :
  (exponentDigits n cs).2.length ≤ cs.length
  := by
  induction cs generalizing n with
  | nil => exact Nat.le_refl _
  | cons c cs ih =>
    rw [exponentDigits]
    split_ifs
    · exact Nat.le_succ_of_le (ih _)
    · exact Nat.le_succ _
    · exact Nat.le_refl _

/-- What stands before the digits of an exponent is read as a double. -/
theorem readsFloats_exponentValue (negative : Bool) (n : Nat) (shift : Int) (below : Bool) :
  ReadsFloats (exponentValue negative n shift below)
  := by
  intro cs v rest h
  match cs with
  | [] => contradiction
  | c :: cs =>
    have hdigits := length_exponentDigits_le (digitValue c) cs
    rw [exponentValue] at h
    generalize exponentDigits (digitValue c) cs = read at h hdigits
    split at h
    · match read with
      | (some e, rest') =>
        obtain ⟨hx, hrest⟩ := readsFloats_scaled _ _ _ h
        exact ⟨hx, Nat.le_trans hrest (Nat.le_succ_of_le hdigits)⟩
      | (none, rest') =>
        dsimp only at h
        split at h
        · contradiction
        · obtain ⟨rfl, rfl⟩ := Prod.mk.inj (Except.ok.inj h)
          have hdrop := List.length_dropWhile_le Char.isDigit rest'
          exact ⟨⟨_, rfl⟩, Nat.le_trans hdrop (Nat.le_succ_of_le hdigits)⟩
    · contradiction

/-- What stands before an exponent is read as a double. -/
theorem readsFloats_exponent (negative : Bool) (n : Nat) (shift : Int) :
  ReadsFloats (exponent negative n shift)
  := by
  intro cs v rest h
  unfold exponent at h
  split at h
  · obtain ⟨hx, hrest⟩ := readsFloats_exponentValue _ _ _ _ h
    exact ⟨hx, Nat.le_succ_of_le hrest⟩
  · obtain ⟨hx, hrest⟩ := readsFloats_exponentValue _ _ _ _ h
    exact ⟨hx, Nat.le_succ_of_le hrest⟩
  · apply readsFloats_exponentValue _ _ _ _ h

/-- With or without an exponent, what has a fraction is read as a double. -/
theorem readsFloats_exponent? (negative : Bool) (n : Nat) (shift : Int) :
  ReadsFloats (exponent? negative n shift)
  := by
  intro cs v rest h
  unfold exponent? at h
  split_ifs at h
  · obtain ⟨hx, hrest⟩ := readsFloats_exponent _ _ _ h
    rw [List.length_tail] at hrest
    exact ⟨hx, by omega⟩
  · apply readsFloats_scaled _ _ _ h

/-- The digits of a significand are taken off the text. -/
theorem length_significand_le (n count : Nat) (cs : List Char) :
  (significand n count cs).2.2.length ≤ cs.length
  := by
  induction cs generalizing n count with
  | nil => exact Nat.le_refl _
  | cons c cs ih =>
    rw [significand]
    split_ifs
    · exact Nat.le_succ_of_le (ih _ _)
    · exact Nat.le_refl _

/-- What has a fraction is read as a double. -/
theorem readsFloats_fraction (negative : Bool) (n : Nat) (shift : Int) :
  ReadsFloats (fraction negative n shift)
  := by
  intro cs v rest h
  unfold fraction at h
  have hlength := length_significand_le n 0 cs
  generalize significand n 0 cs = read at h hlength
  obtain ⟨value, count, rest'⟩ := read
  dsimp only at h hlength
  split_ifs at h
  · obtain ⟨hx, hrest⟩ := readsFloats_exponent? _ _ _ h
    have hdrop := List.length_dropWhile_le Char.isDigit rest'
    exact ⟨hx, by omega⟩
  · split at h <;> contradiction
  · obtain ⟨hx, hrest⟩ := readsFloats_exponent? _ _ _ h
    exact ⟨hx, by omega⟩

/-- After the digits before its point a number ends, or it is a double. -/
theorem afterInteger_eq_ok {negative : Bool} {n : Nat} {cs rest : List Char} {v : Json}
    (h : afterInteger negative n cs = .ok (v, rest)) :
  (v = ofLiteral negative n ∧ rest = cs) ∨ (∃ x, v = float x) ∧ rest.length ≤ cs.length
  := by
  unfold afterInteger at h
  split at h
  · obtain ⟨hx, hrest⟩ := readsFloats_fraction _ _ _ h
    exact .inr ⟨hx, Nat.le_succ_of_le hrest⟩
  · split at h
    · obtain ⟨hx, hrest⟩ := readsFloats_exponent _ _ _ h
      rw [List.length_tail] at hrest
      exact .inr ⟨hx, by omega⟩
    · split at h
      · have hdrop := List.length_dropWhile_le Char.isDigit cs
        generalize cs.dropWhile Char.isDigit = cs' at h hdrop
        dsimp only at h
        split at h
        · obtain ⟨hx, hrest⟩ := readsFloats_fraction _ _ _ h
          rw [List.length_cons] at hdrop
          exact .inr ⟨hx, by omega⟩
        · obtain ⟨hx, hrest⟩ := readsFloats_exponent? _ _ _ h
          exact .inr ⟨hx, by omega⟩
      · obtain ⟨rfl, rfl⟩ := Prod.mk.inj (Except.ok.inj h)
        exact .inl ⟨rfl, rfl⟩

/-! ### Numbers -/

/-- The number of characters that a value is written with; none are counted where there is a
double in it. -/
def span (v : Json) : Nat := if v.IsIntegral then v.write.length else 0

/-- All characters of a value without doubles count. -/
theorem span_of_isIntegral {v : Json} (h : v.IsIntegral) :
  v.span = v.write.length
  := if_pos h

/-- No characters of a value with a double count. -/
theorem span_of_not_isIntegral {v : Json} (h : ¬v.IsIntegral) :
  v.span = 0
  := if_neg h

/-- All characters of an integer count. -/
theorem span_int (i : WideInt) :
  (int i).span = (writeInt i.val).length
  := span_of_isIntegral (v := int i) rfl

/-- No characters of a double count. -/
theorem span_float (x : Float) :
  (float x).span = 0
  := span_of_not_isIntegral (not_isIntegral_float x)

theorem digitValue_lt {c : Char} (h : c.isDigit = true) :
  digitValue c < 10
  := by
  rw [Char.isDigit_iff_toNat] at h
  have hzero : '0'.toNat = 48 := rfl
  have hnine : '9'.toNat = 57 := rfl
  rw [digitValue]
  omega

/-- A significand has no more digits than were read, and those of the number before. -/
theorem significand_lt {n d : Nat} (count : Nat) (cs : List Char) (h : n < 10 ^ d) :
  (significand n count cs).1 < 10 ^ (d + (cs.length - (significand n count cs).2.2.length))
  := by
  induction cs generalizing n count d with
  | nil => exact h
  | cons c cs ih =>
    rw [significand]
    split_ifs with hc
    · rw [Bool.and_eq_true] at hc
      have hdigit := digitValue_lt hc.1
      have hnext : n * 10 + digitValue c < 10 ^ (d + 1) := by
        rw [Nat.pow_succ]
        omega
      have hlength := length_significand_le (n * 10 + digitValue c) (count + 1) cs
      apply Nat.lt_of_lt_of_eq (ih (count + 1) hnext)
      congr 1
      simp only [List.length_cons]
      omega
    · simpa using h

/-- An integer of so many digits is written with them, and a sign if it is negative. -/
theorem length_writeInt_le {i : Int} {d : Nat} (hd : 0 < d) (h : i.natAbs < 10 ^ d) :
  (writeInt i).length ≤ d + (decide (i < 0)).toNat
  := by
  have hdigits := (Nat.length_toDigits_le_iff (by omega) hd).mpr h
  rw [writeInt]
  split_ifs with hneg
  · rw [List.length_cons, decide_eq_true hneg, Bool.toNat_true]
    omega
  · rw [decide_eq_false hneg]
    apply hdigits

theorem val_of_ofInt?_eq_some {j : Int} {i : WideInt} (h : WideInt.ofInt? j = some i) :
  i.val = j
  := by
  unfold WideInt.ofInt? at h
  split_ifs at h
  rw [← Option.some.inj h]

/-- A literal is an integer of its sign and amount, or a double. -/
theorem ofLiteral_cases (negative : Bool) (n : Nat) :
  (∃ i, ofLiteral negative n = int i ∧ i.val.natAbs = n ∧ (i.val < 0 → negative = true))
    ∨ ∃ x, ofLiteral negative n = float x
  := by
  unfold ofLiteral
  split_ifs with hnegative hzero
  · exact .inr ⟨_, rfl⟩
  · cases hi : WideInt.ofInt? (-(n : Int)) with
    | none => exact .inr ⟨_, rfl⟩
    | some i =>
      have hval := val_of_ofInt?_eq_some hi
      exact .inl ⟨i, rfl, by omega, fun _ => hnegative⟩
  · cases hi : WideInt.ofInt? (n : Int) with
    | none => exact .inr ⟨_, rfl⟩
    | some i =>
      have hval := val_of_ofInt?_eq_some hi
      exact .inl ⟨i, rfl, by omega, by omega⟩

/-- Digits that were read are written with no more characters, whatever they stand for. -/
theorem span_ofLiteral_le (negative : Bool) {n d : Nat} (hd : 0 < d) (h : n < 10 ^ d) :
  (ofLiteral negative n).span ≤ d + negative.toNat
  := by
  obtain ⟨i, hi, rfl, hsign⟩ | ⟨x, hx⟩ := ofLiteral_cases negative n
  · have hlength := length_writeInt_le hd h
    rw [hi, span_int]
    by_cases hneg : i.val < 0
    · rw [decide_eq_true hneg] at hlength
      rw [hsign hneg]
      apply hlength
    · rw [decide_eq_false hneg] at hlength
      apply Nat.le_add_right_of_le hlength
  · rw [hx, span_float]
    apply Nat.zero_le

/-- A number is written with no more digits than it is read from.  Its sign was taken before. -/
theorem span_number_le {negative : Bool} {cs rest : List Char} {v : Json}
    (h : number negative cs = .ok (v, rest)) :
  v.span + rest.length ≤ cs.length + negative.toNat
  := by
  match cs with
  | [] => contradiction
  | c :: cs =>
    rw [number] at h
    split_ifs at h with hzero hdigits hc
    · contradiction
    · obtain ⟨rfl, rfl⟩ | ⟨⟨x, rfl⟩, hrest⟩ := afterInteger_eq_ok h
      · have hspan : (ofLiteral negative 0).span ≤ 1 + negative.toNat :=
          span_ofLiteral_le negative Nat.one_pos (by omega)
        rw [List.length_cons]
        omega
      · rw [span_float, List.length_cons]
        omega
    · have hlength := length_significand_le (digitValue c) 0 cs
      have hlt := significand_lt (d := 1) 0 cs (digitValue_lt hc)
      generalize significand (digitValue c) 0 cs = read at h hlength hlt
      obtain ⟨n, count, cs'⟩ := read
      dsimp only at h hlength hlt
      obtain ⟨rfl, rfl⟩ | ⟨⟨x, rfl⟩, hrest⟩ := afterInteger_eq_ok h
      · have hspan := span_ofLiteral_le negative (by omega) hlt
        rw [List.length_cons]
        omega
      · rw [span_float, List.length_cons]
        omega
    · contradiction

/-- A number repeats no key. -/
theorem gives_number (negative : Bool) :
  Gives (number negative) HasDistinctKeys
  := by
  intro cs v rest h
  have hafter {n : Nat} {cs' : List Char} (h : afterInteger negative n cs' = .ok (v, rest)) :
      v.HasDistinctKeys := by
    obtain ⟨rfl, -⟩ | ⟨⟨x, rfl⟩, -⟩ := afterInteger_eq_ok h
    · obtain ⟨i, hi, -⟩ | ⟨x, hx⟩ := ofLiteral_cases negative n
      · rw [hi]
        rfl
      · rw [hx]
        rfl
    · rfl
  match cs with
  | [] => contradiction
  | c :: cs =>
    rw [number] at h
    split_ifs at h
    · contradiction
    · apply hafter h
    · apply hafter h
    · contradiction

end InteractionRouting.Json
