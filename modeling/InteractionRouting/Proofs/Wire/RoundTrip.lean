import InteractionRouting.Wire.Record
import Mathlib.Data.List.Forall2
import Mathlib.Data.List.Nodup
import Mathlib.Tactic.Common

/-!
# What is read back

A codec reads a value back if it reads it from what the value is written as, in whatever way it
is read.  The law is stated of one value at a time: a list is read back if its items are, a record
if its parts are.  The names of a record have to be distinct, and a part that is left out has to
be the one that an absent field stands for.

Some codecs do not read all values back.  They are stable all the same if every value that they
read is one of those that they read back.
-/

namespace InteractionRouting.Wire

variable {α β σ : Type}

/-! ### What succeeds in parts -/

/-- A result comes from both steps. -/
theorem exists_of_bind_eq_ok {ε : Type} {e : Except ε α} {f : α → Except ε β} {b : β}
    (h : e >>= f = .ok b) :
  ∃ a, e = .ok a ∧ f a = .ok b
  := by
  cases e with
  | error e => contradiction
  | ok a => exact ⟨a, rfl, h⟩

/-- An error comes from the first step, or from the second after the first succeeded. -/
theorem error_or_of_bind_eq_error {ε : Type} {e : Except ε α} {f : α → Except ε β} {error : ε}
    (h : e >>= f = .error error) :
  e = .error error ∨ ∃ a, e = .ok a ∧ f a = .error error
  := by
  cases e with
  | error e => exact .inl (congrArg Except.error (Except.error.inj h))
  | ok a => exact .inr ⟨a, rfl, h⟩

theorem exists_of_map_eq_ok {ε : Type} {e : Except ε α} {f : α → β} {b : β}
    (h : e.map f = .ok b) :
  ∃ a, e = .ok a ∧ f a = b
  := by
  cases e with
  | error e => contradiction
  | ok a => exact ⟨a, rfl, Except.ok.inj h⟩

theorem eq_ok_of_mapError_eq_ok {ε ε' : Type} {e : Except ε α} {f : ε → ε'} {a : α}
    (h : e.mapError f = .ok a) :
  e = .ok a
  := by
  cases e with
  | error e => contradiction
  | ok a' => rw [Except.ok.inj h]

/-- What is read of a list is read of its items. -/
theorem exists_of_mem_of_mapM_eq_ok {ε : Type} {f : β → Except ε α} {l : List β} {read : List α}
    (h : l.mapM f = .ok read) {a : α} (ha : a ∈ read) :
  ∃ b ∈ l, f b = .ok a
  := by
  induction l generalizing read with
  | nil =>
    obtain rfl : [] = read := Except.ok.inj h
    contradiction
  | cons b rest ih =>
    rw [List.mapM_cons] at h
    obtain ⟨a', hb, h⟩ := exists_of_bind_eq_ok h
    obtain ⟨read', hrest, h⟩ := exists_of_bind_eq_ok h
    obtain rfl : a' :: read' = read := Except.ok.inj h
    obtain rfl | ha := List.mem_cons.mp ha
    · exact ⟨b, List.mem_cons_self, hb⟩
    · obtain ⟨b', hmem, hb'⟩ := ih hrest ha
      exact ⟨b', List.mem_cons_of_mem b hmem, hb'⟩

/-- A list is read item by item. -/
theorem mapM_eq_ok_iff {ε : Type} {f : α → Except ε β} {l : List α} {read : List β} :
  l.mapM f = .ok read ↔ List.Forall₂ (fun a b => f a = .ok b) l read
  := by
  induction l generalizing read with
  | nil =>
    rw [List.forall₂_nil_left_iff, List.mapM_nil]
    exact ⟨fun h => (Except.ok.inj h).symm, fun h => congrArg Except.ok h.symm⟩
  | cons a l ih =>
    rw [List.mapM_cons, List.forall₂_cons_left_iff]
    constructor
    · intro h
      obtain ⟨b, hb, h⟩ := exists_of_bind_eq_ok h
      obtain ⟨rest, hrest, h⟩ := exists_of_bind_eq_ok h
      exact ⟨b, rest, hb, ih.mp hrest, (Except.ok.inj h).symm⟩
    · rintro ⟨b, rest, hb, hrest, rfl⟩
      rw [hb, ih.mpr hrest]
      rfl

/-- All items are read exactly if each one is. -/
theorem exists_mapM_eq_ok_iff {ε : Type} {f : α → Except ε β} {l : List α} :
  (∃ read, l.mapM f = .ok read) ↔ ∀ a ∈ l, ∃ b, f a = .ok b
  := by
  induction l with
  | nil => exact ⟨fun _ => nofun, fun _ => ⟨[], rfl⟩⟩
  | cons a l ih =>
    rw [List.forall_mem_cons, ← ih]
    simp only [mapM_eq_ok_iff, List.forall₂_cons_left_iff]
    constructor
    · rintro ⟨_, b, rest, hb, hrest, rfl⟩
      exact ⟨⟨b, hb⟩, rest, hrest⟩
    · rintro ⟨⟨b, hb⟩, rest, hrest⟩
      exact ⟨b :: rest, b, rest, hb, hrest, rfl⟩

/-- The error is that of the first item that is not read. -/
theorem mapM_eq_error_iff {ε : Type} {f : α → Except ε β} {l : List α} {e : ε} :
  l.mapM f = .error e ↔ ∃ before a after, l = before ++ a :: after
    ∧ (∀ a' ∈ before, ∃ b, f a' = .ok b) ∧ f a = .error e
  := by
  induction l with
  | nil => simp [pure, Except.pure]
  | cons a l ih =>
    rw [List.mapM_cons]
    constructor
    · intro h
      obtain ha | ⟨b, hb, h⟩ := error_or_of_bind_eq_error h
      · exact ⟨[], a, l, rfl, nofun, ha⟩
      · obtain hrest | ⟨rest, -, h⟩ := error_or_of_bind_eq_error h
        · obtain ⟨before, a', after, rfl, hbefore, ha'⟩ := ih.mp hrest
          exact ⟨a :: before, a', after, rfl, List.forall_mem_cons.mpr ⟨⟨b, hb⟩, hbefore⟩, ha'⟩
        · contradiction
    · rintro ⟨before, a', after, h, hbefore, ha'⟩
      cases before with
      | nil =>
        obtain ⟨rfl, rfl⟩ := List.cons.inj h
        rw [ha']
        rfl
      | cons first before =>
        obtain ⟨rfl, rfl⟩ := List.cons.inj h
        obtain ⟨⟨b, hb⟩, hbefore⟩ := List.forall_mem_cons.mp hbefore
        rw [hb, ih.mpr ⟨before, a', after, rfl, hbefore, ha'⟩]
        rfl

/-- Reading each item of a list from what it is written as gives the list. -/
theorem mapM_map_eq_ok {ε : Type} {f : β → Except ε α} {g : α → β} {l : List α}
    (h : ∀ a ∈ l, f (g a) = .ok a) :
  (l.map g).mapM f = .ok l
  := by
  rw [mapM_eq_ok_iff, List.forall₂_map_left_iff, List.forall₂_same]
  apply h

/-! ### Codecs -/

namespace Codec

/-- A codec reads a value from what the value is written as. -/
def ReadsBack (c : Codec α) (a : α) : Prop := ∀ m : Medium, c.decode m (c.encode a) = .ok a

/-- Everything that a codec reads satisfies `P`. -/
def Yields (c : Codec α) (P : α → Prop) : Prop :=
  ∀ (m : Medium) (v : Json) (a : α), c.decode m v = .ok a → P a

/-- What was read from a document is read again from what it is written as. -/
def Stable (c : Codec α) : Prop :=
  ∀ (v : Json) (a : α), c.decode .direct v = .ok a → c.decode .direct (c.encode a) = .ok a

/-- A codec is stable if all that it yields can be read back. -/
theorem Yields.stable {c : Codec α} {P : α → Prop} (h : c.Yields P)
    (hback : ∀ a, P a → c.ReadsBack a) :
  c.Stable
  := by
  intro v a hread
  apply hback a (h .direct v a hread)

/-- A codec that reads back every value is stable. -/
theorem stable_of_readsBack {c : Codec α} (h : ∀ a, c.ReadsBack a) :
  c.Stable
  := by
  intro v a _
  apply h

/-- Two values that are read back are told apart by what they are written as. -/
theorem ReadsBack.eq_of_encode_eq {c : Codec α} {a b : α} (ha : c.ReadsBack a) (hb : c.ReadsBack b)
    (h : c.encode a = c.encode b) :
  a = b
  := by
  apply Except.ok.inj (ε := Mismatch)
  rw [← ha .direct, h, hb .direct]

namespace ReadsBack

/-- A JSON value stands for itself. -/
theorem any (v : Json) :
  Codec.any.ReadsBack v
  := fun _ => rfl

/-- A string is a JSON string. -/
theorem text (s : String) :
  Codec.text.ReadsBack s
  := fun _ => rfl

theorem flag (b : Bool) :
  Codec.flag.ReadsBack b
  := fun _ => rfl

/-- An integer type reads back the integers that it knows. -/
theorem integer {name : String} {ofInt? : Int → Option α} {toInt : α → Int} {a : α}
    (hlower : -9223372036854775808 ≤ toInt a) (hupper : toInt a < 18446744073709551616)
    (h : ofInt? (toInt a) = some a) :
  (Codec.integer name ofInt? toInt).ReadsBack a
  := by
  intro m
  have hwide : Json.ofInt (toInt a) = .int ⟨toInt a, hlower, hupper⟩ := by
    rw [Json.ofInt, WideInt.ofInt?, dif_pos ⟨hlower, hupper⟩]
  rw [Codec.integer]
  dsimp only
  rw [hwide]
  dsimp only
  rw [h]

/-- A number that fits in the bits is read. -/
theorem unsigned?_natCast {bits n : Nat} (h : n < Nat.pow 2 bits) :
  unsigned? bits n = some n
  := by
  have hrange : (0 : Int) ≤ n ∧ (n : Int) < Nat.pow 2 bits := by omega
  rw [unsigned?, if_pos hrange, Int.toNat_natCast]

/-- A number of 16 bits fits. -/
theorem uint16 (n : UInt16) :
  Codec.uint16.ReadsBack n
  := by
  have hn : n.toNat < 65536 := n.toNat_lt
  apply integer (by omega) (by omega)
  rw [unsigned?_natCast hn, Option.map_some, UInt16.ofNat_toNat]

/-- A number of 32 bits fits. -/
theorem uint32 (n : UInt32) :
  Codec.uint32.ReadsBack n
  := by
  have hn : n.toNat < 4294967296 := n.toNat_lt
  apply integer (by omega) (by omega)
  rw [unsigned?_natCast hn, Option.map_some, UInt32.ofNat_toNat]

/-- A number of 64 bits fits, with its sign. -/
theorem int64 (n : Int64) :
  Codec.int64.ReadsBack n
  := by
  have hlower : -9223372036854775808 ≤ n.toInt := n.le_toInt
  have hupper : n.toInt < 9223372036854775808 := n.toInt_lt
  apply integer hlower (by omega)
  rw [if_pos ⟨hlower, hupper⟩, Int64.ofInt_toInt]

/-- There is a number in JSON for every double but the infinities and NaN. -/
theorem float64 {x : Float} (h : x.isFinite = true) :
  Codec.float64.ReadsBack x
  := by
  intro m
  rw [Codec.float64]
  dsimp only
  rw [Json.ofFloat, if_pos h]

/-- Null stands for nothing, so a value must not be written as null. -/
theorem option {c : Codec α} {o : Option α} (h : ∀ a ∈ o, c.ReadsBack a)
    (hnull : ∀ a ∈ o, c.encode a ≠ .null) :
  c.option.ReadsBack o
  := by
  intro m
  cases o with
  | none => rfl
  | some a =>
    have hdecode : c.option.decode m (c.encode a) = (c.decode m (c.encode a)).map some := by
      rw [Codec.option]
      dsimp only
      split
      · exact absurd ‹_› (hnull a rfl)
      · rfl
    have hencode : c.option.encode (some a) = c.encode a := rfl
    rw [hencode, hdecode, h a rfl m]
    rfl

theorem option_text (o : Option String) :
  Codec.text.option.ReadsBack o
  := option (fun s _ => text s) fun _ _ => nofun

theorem option_uint16 (o : Option UInt16) :
  Codec.uint16.option.ReadsBack o
  := by
  apply option fun n _ => uint16 n
  intro n _ hnull
  have hn : n.toNat < 65536 := n.toNat_lt
  have hwide : (-9223372036854775808 : Int) ≤ n.toNat ∧ (n.toNat : Int) < 18446744073709551616 := by
    omega
  rw [Codec.uint16, Codec.integer] at hnull
  dsimp only at hnull
  rw [Json.ofInt, WideInt.ofInt?, dif_pos hwide] at hnull
  contradiction

/-- A float has to be finite, for JSON has no other. -/
theorem option_float64 {o : Option Float} (h : ∀ x ∈ o, x.isFinite = true) :
  Codec.float64.option.ReadsBack o
  := by
  apply option fun x hx => float64 (h x hx)
  intro x hx hnull
  rw [Codec.float64] at hnull
  dsimp only at hnull
  rw [Json.ofFloat, if_pos (h x hx)] at hnull
  contradiction

/-- A list is read back if its items are. -/
theorem list {c : Codec α} {l : List α} (h : ∀ a ∈ l, c.ReadsBack a) :
  c.list.ReadsBack l
  := by
  intro m
  apply mapM_map_eq_ok
  intro a ha
  apply h a ha

/-- A table is read back if its values are. -/
theorem table {c : Codec α} {t : Table α} (h : ∀ e ∈ t.entries, c.ReadsBack e.2) :
  c.table.ReadsBack t
  := by
  intro m
  have hentries : (t.entries.map fun e => (e.1, c.encode e.2)).mapM
      (fun f => (c.decode m f.2).map (Prod.mk f.1)) = .ok t.entries := by
    apply mapM_map_eq_ok
    intro e he
    rw [h e he m]
    rfl
  have hdecode : c.table.decode m (c.table.encode t)
      = ((t.entries.map fun e => (e.1, c.encode e.2)).mapM
          fun f => (c.decode m f.2).map (Prod.mk f.1)).map Table.ofList := rfl
  rw [hdecode, hentries]
  apply congrArg Except.ok
  apply Table.eq_of_entries_eq
  apply Table.entries_ofList t.nodup

/-- A value is read back from its name if the name is its own. -/
theorem naming {n : Naming α} {a : α} (h : n.names.lookup (n.name a) = some a) :
  n.codec.ReadsBack a
  := by
  intro m
  have hdecode : n.codec.decode m (n.codec.encode a) = n.value (n.name a) := rfl
  rw [hdecode, Naming.value, h]

end ReadsBack

/-- What is read of a table is read of its fields. -/
theorem Yields.table {c : Codec α} {P : α → Prop} (h : c.Yields P) :
  c.table.Yields fun t => ∀ e ∈ t.entries, P e.2
  := by
  intro m v t hread e he
  cases v with
  | object fields =>
    obtain ⟨read, hfields, rfl⟩ := exists_of_map_eq_ok hread
    have hmem := Table.mem_of_mem_entries_ofList he
    obtain ⟨f, -, hf⟩ := exists_of_mem_of_mapM_eq_ok hfields hmem
    obtain ⟨a, ha, rfl⟩ := exists_of_map_eq_ok hf
    apply h m f.2 a ha
  | null | bool | int | float | string | array => contradiction

end Codec

end InteractionRouting.Wire
