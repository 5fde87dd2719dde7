import InteractionRouting.Proofs.Wire.RecordRoundTrip

/-!
# What values have from the JSON they are read from

Some properties of a JSON value pass to the values inside it.  Whatever is read of such a value has
been read of values that have the property, each part of it of one of them.
-/

namespace InteractionRouting.Wire

variable {α β σ : Type} {Q : Json → Prop}

/-- A property of JSON values that passes to the values inside. -/
structure Hereditary (Q : Json → Prop) : Prop where
  item : ∀ {items : List Json}, Q (.array items) → ∀ v ∈ items, Q v
  field : ∀ {fields : List (String × Json)}, Q (.object fields) → ∀ f ∈ fields, Q f.2

namespace Codec

/-- Everything that a codec reads of a value with `Q` satisfies `P`. -/
def Inherits (c : Codec α) (Q : Json → Prop) (P : α → Prop) : Prop :=
  ∀ (m : Medium) (v : Json) (a : α), Q v → c.decode m v = .ok a → P a

/-- A value that is read as it is keeps its properties. -/
theorem inherits_any :
  Codec.any.Inherits Q Q
  := by
  intro m v a hv hread
  rw [← Except.ok.inj hread]
  exact hv

/-- What is read of a list is read of its items. -/
theorem Inherits.list {c : Codec α} {P : α → Prop} (hQ : Hereditary Q) (h : c.Inherits Q P) :
  c.list.Inherits Q fun l => ∀ a ∈ l, P a
  := by
  intro m v l hv hread a ha
  cases v with
  | array items =>
    obtain ⟨w, hw, hitem⟩ := exists_of_mem_of_mapM_eq_ok hread ha
    exact h m w a (hQ.item hv w hw) hitem
  | null | bool | int | float | string | object => contradiction

end Codec

/-! ### Look-ups -/

/-- What is found in a list of fields stands there under its name. -/
theorem mem_of_locateFrom_eq_some {n i : Nat} {fields : List (String × Json)} {name : String}
    {v : Json} (h : locateFrom n fields name = some (i, v)) :
  (name, v) ∈ fields
  := by
  induction fields generalizing n with
  | nil => contradiction
  | cons f rest ih =>
    obtain ⟨key, w⟩ := f
    rw [locateFrom] at h
    split at h
    · next hkey =>
      cases h
      rw [hkey]
      exact List.mem_cons_self
    · exact List.mem_cons_of_mem _ (ih h)

namespace Record

/-- Everything that a part of a record reads where all that is found has `Q` satisfies `P`. -/
def Inherits (r : Record σ α) (Q : Json → Prop) (P : α → Prop) : Prop :=
  ∀ (m : Medium) (look : Lookup) (a : α), (∀ name i v, look name = some (i, v) → Q v) →
    r.read m look = .ok a → P a

theorem inherits_map {r : Record σ α} {f : α → β} {P : β → Prop} (h : ∀ a, P (f a)) :
  (f <$> r).Inherits Q P
  := fun m look b _ => yields_map h m look b

theorem Inherits.seq {r : Record σ (α → β)} {s : Record σ α} {P : α → Prop} {P' : β → Prop}
    (hr : r.Inherits Q fun f => ∀ a, P a → P' (f a)) (hs : s.Inherits Q P) :
  (r <*> s).Inherits Q P'
  := by
  intro m look b hlook hread
  obtain ⟨f, a, hf, ha, rfl⟩ := exists_of_join_eq_ok hread
  apply hr m look f hlook hf a (hs m look a hlook ha)

/-- A field that nothing is claimed of. -/
theorem Inherits.any (r : Record σ α) :
  r.Inherits Q fun _ => True
  := fun _ _ _ _ _ => trivial

/-- A field reads what is found under its name, or what stands for it when it is absent. -/
theorem inherits_field {name : String} {c : Codec α} {absent : Option α} {leaveOut : α → Bool}
    {get : σ → α} {P : α → Prop} (h : c.Inherits Q P) (habsent : ∀ a ∈ absent, P a) :
  (field name c absent leaveOut get).Inherits Q P
  := by
  intro m look a hlook hread
  unfold field at hread
  dsimp only at hread
  split at hread
  · next hfound => exact h m _ a (hlook name _ _ hfound) (eq_ok_of_mapError_eq_ok hread)
  · next =>
    split at hread
    · rw [← Except.ok.inj hread]
      apply habsent
      rfl
    · contradiction

/-- A record is read of the values of its object, or of the items of its sequence. -/
theorem Inherits.codec {r : Record α α} {P : α → Prop} {typeName : String} (hQ : Hereditary Q)
    (h : r.Inherits Q P) :
  (r.codec typeName).Inherits Q P
  := by
  intro m v a hv hread
  cases v with
  | object fields =>
    apply h m (locate fields) a _ (eq_ok_of_mapError_eq_ok hread)
    intro name i w hfound
    exact hQ.field hv _ (mem_of_locateFrom_eq_some hfound)
  | array items =>
    apply h m (locateItem r.names items) a _ (read_of_decodeItems_eq_ok hread)
    intro name i w hfound
    exact hQ.item hv w (List.of_mem_zip (mem_of_locateFrom_eq_some hfound)).2
  | null | bool | int | float | string => contradiction

end Record

end InteractionRouting.Wire
