import InteractionRouting.Proofs.Wire.RoundTrip

/-!
# What records read back

A record is put together from its fields, and so is the proof that it reads a value back: each
field reads its own part of the value, from any look-up that agrees with what was written on the
names of the record.  As the names are distinct, what one field writes does not get in the way of
another.  A type whose object also holds the fields of a part reads a value back if those fields
have none of the record's own names.
-/

namespace InteractionRouting.Wire

variable {α β σ : Type}

/-! ### Look-ups -/

/-- A look-up finds the value of the first field of a name. -/
theorem map_snd_locateFrom (n : Nat) (fields : List (String × Json)) (name : String) :
  (locateFrom n fields name).map Prod.snd = fields.lookup name
  := by
  induction fields generalizing n with
  | nil => rfl
  | cons f rest ih =>
    obtain ⟨key, v⟩ := f
    rw [locateFrom, Table.lookup_cons_eq, ← ih (n + 1)]
    simp only [eq_comm (a := name)]
    split_ifs with hkey
    · rfl
    · rfl

/-- A look-up finds under each of the names what stands there among the fields. -/
def Lookup.Agrees (look : Lookup) (names : List String) (fields : List (String × Json)) : Prop :=
  ∀ name ∈ names, (look name).map Prod.snd = fields.lookup name

/-- The look-up in a list of fields finds what is in it. -/
theorem agrees_locate (names : List String) (fields : List (String × Json)) :
  (locate fields).Agrees names fields
  := fun name _ => map_snd_locateFrom 0 fields name

theorem Lookup.Agrees.mono {look : Lookup} {names names' : List String}
    {fields : List (String × Json)} (h : look.Agrees names fields) (hsub : names' ⊆ names) :
  look.Agrees names' fields
  := fun name hname => h name (hsub hname)

/-- Nothing is found under a name that no field has. -/
theorem lookup_eq_none_of_notMem {fields : List (String × α)} {name : String}
    (h : ∀ f ∈ fields, f.1 ≠ name) :
  fields.lookup name = none
  := by
  rw [List.lookup_eq_none_iff]
  intro f hf
  exact bne_iff_ne.mpr (h f hf).symm

/-- Fields of other names do not matter to a look-up, wherever they stand. -/
theorem Lookup.Agrees.of_append {look : Lookup} {names : List String}
    {fields : List (String × Json)} (before after : List (String × Json))
    (h : look.Agrees names (before ++ fields ++ after)) (hbefore : ∀ f ∈ before, f.1 ∉ names)
    (hafter : ∀ f ∈ after, f.1 ∉ names) :
  look.Agrees names fields
  := by
  intro name hname
  have hb := lookup_eq_none_of_notMem fun f hf => ne_of_mem_of_not_mem hname (hbefore f hf) |>.symm
  have ha := lookup_eq_none_of_notMem fun f hf => ne_of_mem_of_not_mem hname (hafter f hf) |>.symm
  rw [h name hname, List.lookup_append, List.lookup_append, hb, ha, Option.none_or, Option.or_none]

namespace Record

/-! ### Parts of records -/

/-- A part of a record writes its own names only, and reads `a` wherever it finds what it writes
of `x`. -/
structure Restores (r : Record σ α) (x : σ) (a : α) : Prop where
  written : ∀ f ∈ r.write x, f.1 ∈ r.names
  read : r.names.Nodup → ∀ (m : Medium) (look : Lookup), look.Agrees r.names (r.write x) →
    r.read m look = .ok a

namespace Restores

/-- A function is applied to what is read. -/
theorem map {r : Record σ α} {x : σ} {a : α} (f : α → β) (h : r.Restores x a) :
  (f <$> r).Restores x (f a)
  where
  written := h.written
  read hnames m look hlook := by
    have hread : (f <$> r).read m look = (r.read m look).map f := rfl
    rw [hread, h.read hnames m look hlook]
    rfl

/-- Two parts read from one look-up, each under its own names. -/
theorem seq {r : Record σ (α → β)} {s : Record σ α} {x : σ} {f : α → β} {a : α}
    (hr : r.Restores x f) (hs : s.Restores x a) :
  (r <*> s).Restores x (f a)
  where
  written := by
    intro field hfield
    obtain hfield | hfield := List.mem_append.mp hfield
    · exact List.mem_append_left _ (hr.written field hfield)
    · exact List.mem_append_right _ (hs.written field hfield)
  read hnames m look hlook := by
    obtain ⟨hrnames, hsnames, hdisjoint⟩ := List.nodup_append'.mp hnames
    have hlook : look.Agrees (r.names ++ s.names) (r.write x ++ s.write x) := hlook
    have hrlook : look.Agrees r.names (r.write x) := by
      apply Lookup.Agrees.of_append [] _ (hlook.mono (List.subset_append_left _ _))
      · rintro f ⟨⟩
      · intro f hf hmem
        apply hdisjoint hmem (hs.written f hf)
    have hslook : look.Agrees s.names (s.write x) := by
      apply Lookup.Agrees.of_append (r.write x) []
      · rw [List.append_nil]
        apply hlook.mono (List.subset_append_right _ _)
      · intro f hf hmem
        apply hdisjoint (hr.written f hf) hmem
      · rintro f ⟨⟩
    have hread : (r <*> s).read m look = join (r.read m look) (s.read m look) := rfl
    rw [hread, hr.read hrnames m look hrlook, hs.read hsnames m look hslook]
    rfl

/-- A field reads back a value that is written, and a value that is left out if an absent field
stands for it. -/
theorem field {name : String} {c : Codec α} {absent : Option α} {leaveOut : α → Bool}
    {get : σ → α} {x : σ} (h : c.ReadsBack (get x))
    (habsent : leaveOut (get x) = true → absent = some (get x)) :
  (Record.field name c absent leaveOut get).Restores x (get x)
  := by
  have hwrite : (Record.field name c absent leaveOut get).write x
      = if leaveOut (get x) then [] else [(name, c.encode (get x))] := rfl
  constructor
  · intro f hf
    rw [hwrite] at hf
    split at hf
    · contradiction
    · rw [List.mem_singleton.mp hf]
      apply List.mem_singleton_self
  · intro _ m look hlook
    have hname := hlook name (List.mem_singleton_self name)
    rw [hwrite] at hname
    unfold Record.field
    dsimp only
    by_cases hout : leaveOut (get x) = true
    · rw [if_pos hout, List.lookup_nil, Option.map_eq_none_iff] at hname
      rw [hname, habsent hout]
    · rw [if_neg hout, List.lookup_cons_self, Option.map_eq_some_iff] at hname
      obtain ⟨⟨i, v⟩, hfound, rfl⟩ := hname
      rw [hfound]
      dsimp only
      rw [h m]
      rfl

/-- A field that has to be there. -/
theorem required {name : String} {c : Codec α} {get : σ → α} {x : σ} (h : c.ReadsBack (get x)) :
  (Record.required name c get).Restores x (get x)
  := field h (by rintro ⟨⟩)

/-- A field that is always written, and that has a default when it is absent. -/
theorem defaulted {name : String} {c : Codec α} {a : α} {get : σ → α} {x : σ}
    (h : c.ReadsBack (get x)) :
  (Record.defaulted name c a get).Restores x (get x)
  := field h (by rintro ⟨⟩)

/-- A field that is null if there is no value. -/
theorem optional {name : String} {c : Codec α} {get : σ → Option α} {x : σ}
    (h : c.option.ReadsBack (get x)) :
  (Record.optional name c get).Restores x (get x)
  := field h (by rintro ⟨⟩)

/-- A field that is left out if there is no value. -/
theorem elided {name : String} {c : Codec α} {get : σ → Option α} {x : σ}
    (h : c.option.ReadsBack (get x)) :
  (Record.elided name c get).Restores x (get x)
  := by
  apply field h
  intro hnone
  rw [Option.isNone_iff_eq_none.mp hnone]

/-- A field that is left out if the list is empty. -/
theorem elidedList {name : String} {c : Codec α} {get : σ → List α} {x : σ}
    (h : c.list.ReadsBack (get x)) :
  (Record.elidedList name c get).Restores x (get x)
  := by
  apply field h
  intro hnil
  rw [List.isEmpty_iff.mp hnil]

theorem elidedFlag {name : String} {get : σ → Bool} {x : σ} :
  (Record.elidedFlag name get).Restores x (get x)
  := by
  apply field (Codec.ReadsBack.flag (get x))
  intro hfalse
  rw [Bool.not_eq_true'] at hfalse
  rw [hfalse]

/-! ### Whole records -/

/-- Fields that were written are read back. -/
theorem decodeFields_write {r : Record σ α} {x : σ} {a : α} (h : r.Restores x a)
    (hnames : r.names.Nodup) (m : Medium) :
  r.decodeFields m (r.write x) = .ok a
  := by
  rw [decodeFields, h.read hnames m _ (agrees_locate _ _)]
  rfl

/-- A record that restores all of a value reads it back. -/
theorem readsBack {r : Record α α} {x : α} {typeName : String} (h : r.Restores x x)
    (hnames : r.names.Nodup) :
  (r.codec typeName).ReadsBack x
  := fun m => h.decodeFields_write hnames m

/-- With a part in the same object, the fields of the part have none of the own names, and the
part is read from them. -/
theorem readsBack_with {own : Record σ α} {readPart : List (String × Json) → Except Mismatch β}
    {writePart : σ → List (String × Json)} {build : α → β → σ} {x : σ} {a : α} {b : β}
    {typeName : String} (h : own.Restores x a) (hnames : own.names.Nodup)
    (hapart : ∀ f ∈ writePart x, f.1 ∉ own.names) (hpart : readPart (writePart x) = .ok b)
    (hbuild : build a b = x) :
  (own.codecWith typeName readPart writePart build).ReadsBack x
  := by
  intro m
  have hlook : (locate (own.write x ++ writePart x)).Agrees own.names (own.write x) := by
    apply Lookup.Agrees.of_append [] _ (agrees_locate _ _)
    · rintro f ⟨⟩
    · exact hapart
  have hown : own.decodeFields m (own.write x ++ writePart x) = .ok a := by
    rw [decodeFields, h.read hnames m _ hlook]
    rfl
  have hothers : own.others (own.write x ++ writePart x) = writePart x := by
    have hnone : (own.write x).filter (fun f => !own.names.contains f.1) = [] := by
      rw [List.filter_eq_nil_iff]
      intro f hf
      simp [h.written f hf]
    have hall : (writePart x).filter (fun f => !own.names.contains f.1) = writePart x := by
      rw [List.filter_eq_self]
      intro f hf
      simp [hapart f hf]
    rw [others, List.filter_append, hnone, hall, List.nil_append]
  have hdecode : (own.codecWith typeName readPart writePart build).decode m
      ((own.codecWith typeName readPart writePart build).encode x)
        = (do
          let a ← own.decodeFields m (own.write x ++ writePart x)
          let b ← readPart (own.others (own.write x ++ writePart x))
          return build a b) := rfl
  rw [hdecode, hown, hothers, hpart, ← hbuild]
  rfl

end Restores

/-- Records are never written as null. -/
theorem option_readsBack {r : Record α α} {typeName : String} {o : Option α}
    (h : ∀ a ∈ o, (r.codec typeName).ReadsBack a) :
  (r.codec typeName).option.ReadsBack o
  := Codec.ReadsBack.option h fun _ _ => nofun

/-! ### What records read -/

/-- Everything that a part of a record reads satisfies `P`. -/
def Yields (r : Record σ α) (P : α → Prop) : Prop :=
  ∀ (m : Medium) (look : Lookup) (a : α), r.read m look = .ok a → P a

/-- What a part that is mapped reads is an image. -/
theorem yields_map {r : Record σ α} {f : α → β} {P : β → Prop} (h : ∀ a, P (f a)) :
  (f <$> r).Yields P
  := by
  intro m look b hread
  obtain ⟨a, -, rfl⟩ := exists_of_map_eq_ok hread
  apply h

/-- Two readings are joined only if both succeed. -/
theorem exists_of_join_eq_ok {read : Except Fault (α → β)} {readArgument : Except Fault α} {b : β}
    (h : join read readArgument = .ok b) :
  ∃ f a, read = .ok f ∧ readArgument = .ok a ∧ f a = b
  := by
  cases read with
  | error e =>
    cases readArgument with
    | error e' => contradiction
    | ok a => contradiction
  | ok f =>
    cases readArgument with
    | error e' => contradiction
    | ok a => exact ⟨f, a, rfl, rfl, Except.ok.inj h⟩

theorem Yields.seq {r : Record σ (α → β)} {s : Record σ α} {P : α → Prop} {Q : β → Prop}
    (hr : r.Yields fun f => ∀ a, P a → Q (f a)) (hs : s.Yields P) :
  (r <*> s).Yields Q
  := by
  intro m look b hread
  obtain ⟨f, a, hf, ha, rfl⟩ := exists_of_join_eq_ok hread
  apply hr m look f hf a (hs m look a ha)

/-- A field that nothing is claimed of. -/
theorem Yields.any (r : Record σ α) :
  r.Yields fun _ => True
  := fun _ _ _ _ => trivial

/-- A field yields what its codec does, or what stands for it when it is absent. -/
theorem yields_field {name : String} {c : Codec α} {absent : Option α} {leaveOut : α → Bool}
    {get : σ → α} {P : α → Prop} (h : c.Yields P) (habsent : ∀ a ∈ absent, P a) :
  (field name c absent leaveOut get).Yields P
  := by
  intro m look a hread
  unfold field at hread
  dsimp only at hread
  split at hread
  · exact h m _ a (eq_ok_of_mapError_eq_ok hread)
  · split at hread
    · rw [← Except.ok.inj hread]
      apply habsent
      rfl
    · contradiction

/-- What is read of a sequence is read of its items, by their places. -/
theorem read_of_decodeItems_eq_ok {r : Record σ α} {typeName : String} {m : Medium}
    {items : List Json} {a : α} (h : r.decodeItems typeName m items = .ok a) :
  r.read m (locateItem r.names items) = .ok a
  := by
  rw [decodeItems] at h
  split at h
  · contradiction
  · next a' hitems =>
    obtain rfl : a' = a := by
      split at h
      · split at h
        · contradiction
        · exact Except.ok.inj h
      · exact Except.ok.inj h
    exact hitems

theorem Yields.codec {r : Record α α} {P : α → Prop} {typeName : String} (h : r.Yields P) :
  (r.codec typeName).Yields P
  := by
  intro m v a hread
  cases v with
  | object fields => exact h m _ a (eq_ok_of_mapError_eq_ok hread)
  | array items => exact h m _ a (read_of_decodeItems_eq_ok hread)
  | null | bool | int | float | string => contradiction

/-- A type whose object also holds the fields of a part is read from an object only: the own
fields from it, and the part from the fields of other names. -/
theorem exists_of_decode_codecWith {own : Record σ α}
    {readPart : List (String × Json) → Except Mismatch β} {writePart : σ → List (String × Json)}
    {build : α → β → σ} {typeName : String} {m : Medium} {v : Json} {x : σ}
    (h : (own.codecWith typeName readPart writePart build).decode m v = .ok x) :
  ∃ fields a b, v = .object fields ∧ own.decodeFields m fields = .ok a
    ∧ readPart (own.others fields) = .ok b ∧ build a b = x
  := by
  cases v with
  | object fields =>
    have hdecode : (own.codecWith typeName readPart writePart build).decode m (.object fields)
        = (do
          let a ← own.decodeFields m fields
          let b ← readPart (own.others fields)
          return build a b) := rfl
    rw [hdecode] at h
    obtain ⟨a, hown, h⟩ := exists_of_bind_eq_ok h
    obtain ⟨b, hpart, h⟩ := exists_of_bind_eq_ok h
    exact ⟨fields, a, b, rfl, hown, hpart, Except.ok.inj h⟩
  | null | bool | int | float | string | array => contradiction

end Record

end InteractionRouting.Wire
