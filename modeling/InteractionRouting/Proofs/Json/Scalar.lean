import InteractionRouting.Json.Printer
import InteractionRouting.Json.Reader
import Mathlib.Data.List.Basic
import Mathlib.Tactic.SplitIfs

/-!
# Strings and integers read back

The text of a string is read as that string, whatever follows it.  The text of an integer is
read as that integer, if what follows cannot be part of a number.
-/

namespace InteractionRouting.Json

/-! ### Strings -/

/-- A hexadecimal digit has the value that it was written for. -/
theorem hexValue?_hexDigit :
  ∀ n < 16, hexValue? (hexDigit n) = some n
  := by
  decide

/-- The escape of a control character. -/
theorem escape_control {n : Nat} (h : n < 0x20) (rest : List Char) :
  escape ('u' :: '0' :: '0' :: hexDigit (n / 16) :: hexDigit (n % 16) :: rest)
    = .ok (Char.ofNat n, rest)
  := by
  have hhigh := hexValue?_hexDigit (n / 16) (by omega)
  have hlow := hexValue?_hexDigit (n % 16) (by omega)
  have hzero : hexValue? '0' = some 0 := by decide
  have hword : hexWord? '0' '0' (hexDigit (n / 16)) (hexDigit (n % 16)) = some n := by
    simp only [hexWord?, hzero, hhigh, hlow, Option.bind_eq_bind, Option.bind_some, Option.pure_def]
    congr 1
    omega
  have hbmp : ¬(0xDC00 ≤ n ∧ n ≤ 0xDFFF) ∧ ¬(0xD800 ≤ n ∧ n ≤ 0xDBFF) := by omega
  simp only [escape, unicodeEscape, hexWord, hword, bind, Except.bind, hbmp, if_false]
  rfl

/-- An escape stands for the character it is read as. -/
theorem stringBody_escape {fuel : Nat} {cs rest rest' s : List Char} {c : Char}
    (hc : escape cs = .ok (c, rest)) (hs : stringBody fuel rest = .ok (s, rest')) :
  stringBody (fuel + 1) ('\\' :: cs) = .ok (c :: s, rest')
  := by
  rw [stringBody, if_neg (by decide), if_pos rfl, hc]
  simp only [bind, Except.bind, hs]
  rfl

/-- A character is read as it was written. -/
theorem stringBody_writeChar {fuel : Nat} {cs rest s : List Char} (c : Char)
    (hs : stringBody fuel cs = .ok (s, rest)) :
  stringBody (fuel + 1) (writeChar c ++ cs) = .ok (c :: s, rest)
  := by
  unfold writeChar
  split_ifs with hquote hslash hline hreturn htab hback hfeed hcontrol
  · subst hquote
    apply stringBody_escape rfl hs
  · subst hslash
    apply stringBody_escape rfl hs
  · subst hline
    apply stringBody_escape rfl hs
  · subst hreturn
    apply stringBody_escape rfl hs
  · subst htab
    apply stringBody_escape rfl hs
  · subst hback
    apply stringBody_escape rfl hs
  · subst hfeed
    apply stringBody_escape rfl hs
  · have hc := escape_control hcontrol cs
    rw [Char.ofNat_toNat] at hc
    apply stringBody_escape hc hs
  · rw [List.singleton_append, stringBody, if_neg hquote, if_neg hslash, if_neg hcontrol]
    simp only [bind, Except.bind, hs]
    rfl

/-- Characters that are escaped one by one are read back up to the closing quote. -/
theorem stringBody_flatMap_writeChar (s rest : List Char) {fuel : Nat} (h : s.length < fuel) :
  stringBody fuel (s.flatMap writeChar ++ '"' :: rest) = .ok (s, rest)
  := by
  induction s generalizing fuel with
  | nil =>
    obtain ⟨fuel, rfl⟩ := Nat.exists_eq_succ_of_ne_zero (Nat.ne_zero_of_lt h)
    rfl
  | cons c s ih =>
    obtain ⟨fuel, rfl⟩ := Nat.exists_eq_succ_of_ne_zero (Nat.ne_zero_of_lt h)
    rw [List.flatMap_cons, List.append_assoc]
    apply stringBody_writeChar c (ih (Nat.lt_of_succ_lt_succ h))

/-- Escaping makes no text shorter. -/
theorem length_le_length_flatMap_writeChar (s : List Char) :
  s.length ≤ (s.flatMap writeChar).length
  := by
  induction s with
  | nil => simp
  | cons c s ih =>
    have hc : 0 < (writeChar c).length := by
      unfold writeChar
      split_ifs <;> simp
    rw [List.flatMap_cons, List.length_append, List.length_cons]
    omega

/-- A string is read as it was written. -/
theorem quoted_writeString (s : String) (rest : List Char) :
  quoted ((writeString s.toList).tail ++ rest) = .ok (s, rest)
  := by
  have hlength := length_le_length_flatMap_writeChar s.toList
  have hfuel : s.toList.length < ((writeString s.toList).tail ++ rest).length + 1 := by
    simp only [writeString, List.tail_cons, List.length_append]
    omega
  have hbody := stringBody_flatMap_writeChar s.toList rest hfuel
  unfold quoted
  simp only [writeString, List.tail_cons, List.append_assoc, List.singleton_append] at hbody ⊢
  simp only [hbody, bind, Except.bind, pure, Except.pure, String.ofList_toList]

/-! ### Integers -/

/-- The text cannot be the next part of a number. -/
structure EndsNumber (cs : List Char) : Prop where
  noDigit : startsDigit cs = false
  noExponent : startsExponent cs = false
  noPoint : cs.head? ≠ some '.'

theorem endsNumber_nil :
  EndsNumber []
  := ⟨rfl, rfl, by simp⟩

/-- Of the characters that follow a value in a document none goes on with a number. -/
theorem endsNumber_cons {c : Char} (h : c ∈ [',', ']', '\x7d']) (cs : List Char) :
  EndsNumber (c :: cs)
  := by
  simp only [List.mem_cons, List.not_mem_nil, or_false] at h
  obtain rfl | rfl | rfl := h
  · exact ⟨rfl, rfl, by simp⟩
  · exact ⟨rfl, rfl, by simp⟩
  · exact ⟨rfl, rfl, by simp⟩

/-- Further digits make no number smaller. -/
theorem le_ofDigitChars (ds : List Char) (value : Nat) :
  value ≤ Nat.ofDigitChars 10 ds value
  := by
  rw [Nat.ofDigitChars_eq_ofDigitChars_zero]
  have hpow : 1 * value ≤ 10 ^ ds.length * value := by
    apply Nat.mul_le_mul_right
    apply Nat.one_le_pow
    omega
  omega

/-- Digits are read up to the first character that is none, as long as they fit. -/
theorem significand_append {ds rest : List Char} {value count : Nat}
    (hds : ∀ c ∈ ds, c.isDigit = true) (hrest : startsDigit rest = false)
    (hfit : Nat.ofDigitChars 10 ds value < 18446744073709551616) :
  significand value count (ds ++ rest)
    = (Nat.ofDigitChars 10 ds value, count + ds.length, rest)
  := by
  induction ds generalizing value count with
  | nil =>
    match rest with
    | [] => rfl
    | c :: rest =>
      have hc : c.isDigit = false := hrest
      simp [significand, hc]
  | cons c ds ih =>
    have hvalue : 10 * value + (c.toNat - '0'.toNat) = value * 10 + digitValue c := by
      rw [digitValue, Nat.mul_comm]
    rw [Nat.ofDigitChars_cons, hvalue] at hfit ⊢
    have hstep := le_ofDigitChars ds (value * 10 + digitValue c)
    have hfits : value * 10 + digitValue c < 18446744073709551616 := by omega
    rw [List.cons_append, significand, if_pos (by simp [hds c (by simp), hfits]),
      ih (fun d hd => hds d (by simp [hd])) hfit]
    simp only [List.length_cons, Prod.mk.injEq, true_and, and_true]
    omega

/-- A number ends where nothing goes on with it. -/
theorem afterInteger_of_endsNumber {cs : List Char} (h : EndsNumber cs) (negative : Bool)
    (value : Nat) :
  afterInteger negative value cs = .ok (ofLiteral negative value, cs)
  := by
  unfold afterInteger
  split
  · exact absurd rfl h.noPoint
  · rw [h.noExponent, h.noDigit]
    rfl

theorem ne_of_isDigit {c d : Char} (hc : c.isDigit = true) (hd : d.isDigit = false) :
  c ≠ d
  := by
  rintro rfl
  rw [hc] at hd
  contradiction

/-- Every number has a first digit. -/
theorem toDigits_eq_cons (n : Nat) :
  ∃ c ds, Nat.toDigits 10 n = c :: ds ∧ c.isDigit = true
  := by
  obtain ⟨c, ds, hds⟩ := List.exists_cons_of_ne_nil (Nat.toDigits_ne_nil (b := 10) (n := n))
  use c, ds, hds
  apply Nat.isDigit_of_mem_toDigits (b := 10) (n := n) (by omega) (by omega)
  simp [hds]

/-- The digits of a number start with a zero only if it is zero. -/
theorem head?_toDigits_ne_zero {n : Nat} (h : 0 < n) :
  (Nat.toDigits 10 n).head? ≠ some '0'
  := by
  induction n using Nat.base_induction 10 (by omega) with
  | single m hm =>
    rw [Nat.toDigits_of_lt_base hm]
    simp only [List.head?_cons, ne_eq, Option.some.injEq, Nat.digitChar_eq_zero]
    omega
  | digit m k hk hm ih =>
    rw [← Nat.toDigits_append_toDigits (by omega) hm hk, List.head?_append_of_ne_nil _ (by simp)]
    apply ih hm

/-- The digits of a number are read as that number. -/
theorem number_toDigits {n : Nat} (hn : n < 18446744073709551616) {rest : List Char}
    (hrest : EndsNumber rest) (negative : Bool) :
  number negative (Nat.toDigits 10 n ++ rest) = .ok (ofLiteral negative n, rest)
  := by
  obtain rfl | hpos := Nat.eq_zero_or_pos n
  · rw [Nat.toDigits_zero, List.singleton_append, number, if_pos rfl, hrest.noDigit]
    apply afterInteger_of_endsNumber hrest
  · have hhead := head?_toDigits_ne_zero hpos
    have hdigits : ∀ c ∈ Nat.toDigits 10 n, c.isDigit = true := fun c hc =>
      Nat.isDigit_of_mem_toDigits (by omega) (by omega) hc
    have hvalue := Nat.ofDigitChars_ten_toDigits (n := n)
    obtain ⟨c, ds, hds, hc⟩ := toDigits_eq_cons n
    rw [hds] at hhead hdigits hvalue
    have hvalue : Nat.ofDigitChars 10 ds (digitValue c) = n := by
      rw [Nat.ofDigitChars_cons, Nat.mul_zero, Nat.zero_add] at hvalue
      exact hvalue
    have hread : significand (digitValue c) 0 (ds ++ rest) = _ :=
      significand_append (fun d hd => hdigits d (by simp [hd])) hrest.noDigit (hvalue ▸ hn)
    rw [hds, List.cons_append, number, if_neg (by simpa using hhead), if_pos hc, hread, hvalue]
    apply afterInteger_of_endsNumber hrest

/-- The sign and the amount of an integer make up that integer. -/
theorem ofLiteral_natAbs (i : WideInt) :
  ofLiteral (decide (i.val < 0)) i.val.natAbs = int i
  := by
  unfold ofLiteral
  by_cases hneg : i.val < 0
  · have hval : -(i.val.natAbs : Int) = i.val := by omega
    have hne : i.val.natAbs ≠ 0 := by omega
    rw [if_pos (by simpa using hneg), if_neg hne, hval, WideInt.ofInt?_val]
  · have hval : (i.val.natAbs : Int) = i.val := by omega
    rw [if_neg (by simpa using hneg), hval, WideInt.ofInt?_val]

end InteractionRouting.Json
