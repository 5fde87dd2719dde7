import Mathlib.Data.String.Basic

/-!
# Splitting a text at a character

Splitting a text wherever some character stands in it is splitting the list of its characters.
-/

namespace InteractionRouting.Text

open String (utf8Len)

/-- What is before `m ++ r` was split already, and the character is nowhere in `m`. -/
theorem splitOnAux_singleton (c : Char) (l m r : List Char) (parts : List String) :
  (String.ofList (l ++ m ++ r)).splitOnAux (String.singleton c) ⟨utf8Len l⟩
      ⟨utf8Len l + utf8Len m⟩ 0 parts
    = parts.reverse ++ (List.splitOnPPrepend (· == c) r m.reverse).map String.ofList
  := by
  induction r generalizing l m parts with
  | nil =>
    rw [String.splitOnAux, if_pos]
    · dsimp only
      rw [List.append_nil]
      have hpart := String.extract_of_valid l m []
      rw [List.append_nil] at hpart
      have hend : String.Pos.Raw.extract (String.ofList (l ++ m)) ⟨utf8Len l⟩
          ⟨utf8Len l + utf8Len m⟩ = String.ofList m := hpart
      rw [hend]
      simp
    · have hend := String.atEnd_of_valid (l ++ m) []
      rw [String.utf8Len_append] at hend
      exact hend.mpr rfl
  | cons d r ih =>
    have hsep : String.singleton c = String.ofList ([] ++ [c]) := by simp
    have hget : String.Pos.Raw.get (String.singleton c) 0 = c := by
      rw [hsep]
      exact String.get_of_valid [] [c]
    have hnext : String.Pos.Raw.next (String.singleton c) 0 = ⟨c.utf8Size⟩ := by
      rw [hsep]
      have := String.next_of_valid [] c []
      simpa using this
    have hatEnd : String.Pos.Raw.atEnd (String.singleton c) ⟨c.utf8Size⟩ = true := by
      have := String.atEnd_of_valid [c] []
      simpa using this
    have hhere := String.atEnd_of_valid (l ++ m) (d :: r)
    have hd := String.get_of_valid (l ++ m) (d :: r)
    have hafter := String.next_of_valid (l ++ m) d r
    rw [String.utf8Len_append] at hhere hd hafter
    have hend := fun h => List.cons_ne_nil d r (hhere.mp h)
    rw [String.splitOnAux, if_neg hend, hd, hget, List.headD_cons, List.splitOnPPrepend_cons_eq_if]
    by_cases hdc : (d == c) = true
    · obtain rfl := eq_of_beq hdc
      have hback : (⟨utf8Len l + utf8Len m + d.utf8Size⟩ : String.Pos.Raw).unoffsetBy
          ⟨d.utf8Size⟩ = ⟨utf8Len l + utf8Len m⟩ := by
        simp [String.Pos.Raw.unoffsetBy]
      have hlength : utf8Len l + utf8Len m + d.utf8Size = utf8Len (l ++ m ++ [d]) := by
        simp [Nat.add_assoc]
      have htext : l ++ m ++ d :: r = l ++ m ++ [d] ++ [] ++ r := by simp
      rw [if_pos hdc, if_pos hdc, hnext]
      dsimp only
      rw [if_pos hatEnd, hafter, hback, String.extract_of_valid l m (d :: r), hlength, htext]
      apply (ih (l ++ m ++ [d]) [] _).trans
      simp
    · have hlength : utf8Len l + utf8Len m + d.utf8Size = utf8Len l + utf8Len (m ++ [d]) := by
        simp [Nat.add_assoc]
      have htext : l ++ m ++ d :: r = l ++ (m ++ [d]) ++ r := by simp
      have hhere : (⟨utf8Len l + utf8Len m⟩ : String.Pos.Raw).unoffsetBy 0
          = ⟨utf8Len l + utf8Len m⟩ := rfl
      rw [if_neg hdc, if_neg hdc, hhere, hafter, hlength, htext, ih l (m ++ [d]) parts]
      simp

/-- Splitting a text at a character is splitting its characters. -/
theorem splitOn_singleton (s : String) (c : Char) :
  s.splitOn (String.singleton c) = (s.toList.splitOnP (· == c)).map String.ofList
  := by
  have haux := splitOnAux_singleton c [] [] s.toList []
  rw [List.nil_append, List.nil_append, String.ofList_toList] at haux
  rw [String.splitOn, if_neg (by simp)]
  exact haux

/-- The steps of a path stand between its slashes. -/
theorem splitOn_slash (s : String) :
  s.splitOn "/" = (s.toList.splitOnP (· == '/')).map String.ofList
  := splitOn_singleton s '/'

/-- The text between two such characters comes in at least one part. -/
theorem splitOn_singleton_ne_nil (s : String) (c : Char) :
  s.splitOn (String.singleton c) ≠ []
  := by
  rw [splitOn_singleton, Ne, List.map_eq_nil_iff]
  apply List.splitOnP_ne_nil

end InteractionRouting.Text
