import InteractionRouting.Proofs.Json.Scalar
import InteractionRouting.Proofs.Wire.RoundTrip
import Mathlib.Data.List.TakeWhile

/-!
# What is taken off a text

Each function of the reader is taken apart once, into the ways in which it can succeed.  A string
takes at least as many characters off a text as it is written with, for no escape is shorter than
what it stands for is written as.
-/

namespace InteractionRouting.Json

open Wire (exists_of_bind_eq_ok)

/-- A reader takes at least as many characters off a text as `size` says of what it read. -/
def Takes {α : Type} (r : Reader α) (size : α → Nat) : Prop :=
  ∀ ⦃cs : List Char⦄ ⦃a : α⦄ ⦃rest : List Char⦄, r cs = .ok (a, rest) →
    size a + rest.length ≤ cs.length

/-- Everything that a reader reads satisfies `P`. -/
def Gives {α : Type} (r : Reader α) (P : α → Prop) : Prop :=
  ∀ ⦃cs : List Char⦄ ⦃a : α⦄ ⦃rest : List Char⦄, r cs = .ok (a, rest) → P a

/-- Blanks that are skipped are taken off the text. -/
theorem length_skipBlanks_le (cs : List Char) :
  (skipBlanks cs).length ≤ cs.length
  := List.length_dropWhile_le _ _

/-- The rest of a word is taken as it stands. -/
theorem eq_of_word_eq_ok {α : Type} {result a : α} {ws cs rest : List Char}
    (h : word result ws cs = .ok (a, rest)) :
  a = result ∧ cs = ws ++ rest
  := by
  induction ws generalizing cs with
  | nil =>
    obtain ⟨rfl, rfl⟩ := Prod.mk.inj (Except.ok.inj h)
    exact ⟨rfl, rfl⟩
  | cons w ws ih =>
    cases cs with
    | nil => contradiction
    | cons c cs =>
      rw [word] at h
      split_ifs at h with hc
      · obtain ⟨rfl, rfl⟩ := ih h
        rw [hc]
        exact ⟨rfl, rfl⟩
      · contradiction

/-! ### Strings -/

/-- A word of hexadecimal digits takes four characters. -/
theorem takes_hexWord :
  Takes hexWord fun _ => 4
  := by
  intro cs n rest h
  unfold hexWord at h
  dsimp only at h
  split at h
  · split at h
    · obtain ⟨-, rfl⟩ := Prod.mk.inj (Except.ok.inj h)
      simp only [List.length_cons]
      omega
    · split_ifs at h <;> contradiction
  · split_ifs at h <;> contradiction

/-- The second of a pair of surrogates takes six characters. -/
theorem takes_lowSurrogate (high : Nat) :
  Takes (lowSurrogate high) fun _ => 6
  := by
  intro cs c rest h
  unfold lowSurrogate at h
  split at h
  case h_3 cs =>
    obtain ⟨⟨low, rest'⟩, hword, h⟩ := exists_of_bind_eq_ok h
    have hlength : 4 + rest'.length ≤ cs.length := takes_hexWord hword
    dsimp only at h
    split_ifs at h
    · obtain ⟨-, rfl⟩ := Prod.mk.inj (Except.ok.inj h)
      simp only [List.length_cons]
      omega
    · contradiction
  all_goals contradiction

/-- An escape by number takes at least four characters after its mark. -/
theorem takes_unicodeEscape :
  Takes unicodeEscape fun _ => 4
  := by
  intro cs c rest h
  obtain ⟨⟨n, rest'⟩, hword, h⟩ := exists_of_bind_eq_ok h
  have hlength : 4 + rest'.length ≤ cs.length := takes_hexWord hword
  dsimp only at h ⊢
  split_ifs at h
  · contradiction
  · have hlow : 6 + rest.length ≤ rest'.length := takes_lowSurrogate n h
    omega
  · obtain ⟨-, rfl⟩ := Prod.mk.inj (Except.ok.inj h)
    exact hlength

/-- A `\u` escape is the longest way to write a character. -/
theorem length_writeChar_le (c : Char) :
  (writeChar c).length ≤ 6
  := by
  unfold writeChar
  split_ifs <;> simp

/-- What has an escape of one letter is written by it, or as it stands. -/
theorem length_writeChar_of_simpleEscape? {c d : Char} (h : simpleEscape? c = some d) :
  (writeChar d).length ≤ 2
  := by
  unfold simpleEscape? at h
  split at h
  case h_9 => contradiction
  all_goals
    obtain rfl := Option.some.inj h
    decide

/-- What may stand in a string as it is, is written as it is. -/
theorem length_writeChar_of_plain {c : Char} (hquote : c ≠ '"') (hslash : c ≠ '\\')
    (hcontrol : ¬c.toNat < 0x20) :
  (writeChar c).length = 1
  := by
  unfold writeChar
  rw [if_neg hquote, if_neg hslash, if_neg, if_neg, if_neg, if_neg, if_neg, if_neg hcontrol]
  · rfl
  all_goals
    rintro rfl
    exact hcontrol (by decide)

/-- The backslash before an escape is not counted. -/
theorem takes_escape :
  Takes escape fun c => (writeChar c).length - 1
  := by
  intro cs c rest h
  unfold escape at h
  dsimp only
  split at h
  · contradiction
  · next cs =>
    have hrest : 4 + rest.length ≤ cs.length := takes_unicodeEscape h
    have hlength := length_writeChar_le c
    simp only [List.length_cons]
    omega
  · split at h
    · next hsimple =>
      obtain ⟨rfl, rfl⟩ := Prod.mk.inj (Except.ok.inj h)
      have hlength := length_writeChar_of_simpleEscape? hsimple
      simp only [List.length_cons]
      omega
    · contradiction

/-- A string takes at least the characters that it is written with. -/
theorem takes_stringBody (fuel : Nat) :
  Takes (stringBody fuel) fun s => (s.flatMap writeChar).length + 1
  := by
  intro cs s rest h
  induction fuel generalizing cs s with
  | zero => contradiction
  | succ fuel ih =>
    cases cs with
    | nil => contradiction
    | cons c cs =>
      rw [stringBody] at h
      split_ifs at h with hquote hslash hcontrol
      · obtain ⟨rfl, rfl⟩ := Prod.mk.inj (Except.ok.inj h)
        simp only [List.flatMap_nil, List.length_nil, List.length_cons]
        omega
      · obtain ⟨⟨d, rest'⟩, hescape, h⟩ := exists_of_bind_eq_ok h
        obtain ⟨⟨s', rest''⟩, hbody, h⟩ := exists_of_bind_eq_ok h
        obtain ⟨rfl, rfl⟩ := Prod.mk.inj (Except.ok.inj h)
        have hd : (writeChar d).length - 1 + rest'.length ≤ cs.length := takes_escape hescape
        have hs := ih hbody
        simp only [List.flatMap_cons, List.length_append, List.length_cons] at hs ⊢
        omega
      · contradiction
      · obtain ⟨⟨s', rest'⟩, hbody, h⟩ := exists_of_bind_eq_ok h
        obtain ⟨rfl, rfl⟩ := Prod.mk.inj (Except.ok.inj h)
        have hc := length_writeChar_of_plain hquote hslash hcontrol
        have hs := ih hbody
        simp only [List.flatMap_cons, List.length_append, List.length_cons] at hs ⊢
        omega

/-- The opening quote is not counted. -/
theorem takes_quoted :
  Takes quoted fun s => (writeString s.toList).length - 1
  := by
  intro cs s rest h
  obtain ⟨⟨body, rest'⟩, hbody, h⟩ := exists_of_bind_eq_ok h
  obtain ⟨rfl, rfl⟩ := Prod.mk.inj (Except.ok.inj h)
  have hlength := takes_stringBody _ hbody
  simp only [writeString, String.toList_ofList, List.length_cons, List.length_append,
    List.length_nil] at hlength ⊢
  omega

end InteractionRouting.Json
