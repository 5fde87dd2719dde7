import InteractionRouting.Proofs.Wire.RecordRoundTrip
import Mathlib.Data.List.Forall2
import Mathlib.Data.List.Perm.Basic

/-!
# Spellings of a value

The same record can be spelled in many ways: its fields in any order, and with any fields beside
them that it does not name.  A `Shape` says where in a JSON value there are records, and what names
they have.  Codecs that respect a shape read the same of all spellings of a value, or they read none
of them.  Only the mismatch that is given may be another one, for it is the first in the value.
-/

namespace InteractionRouting.Wire

variable {α β σ τ : Type}

/-- What the JSON of a type looks like, as far as its records go. -/
inductive Shape where
  /-- A value that is spelled in one way. -/
  | leaf
  | list (item : Shape)
  /-- An object whose keys are data, and what there is under a key. -/
  | entries (value : String → Shape)
  /-- An object of named fields, and what there is in a field. -/
  | record (names : List String) (inside : String → Shape)

/-- Fields of the same keys in the same order, where `R` relates the values under each key. -/
def Keyed (R : String → Json → Json → Prop) : List (String × Json) → List (String × Json) → Prop :=
  List.Forall₂ fun f g => f.1 = g.1 ∧ R f.1 f.2 g.2

/-- Fields in another order, where `R` relates the values under each key, and with fields added of
which none has one of the names.  No key is repeated. -/
inductive Rearranged (names : List String) (R : String → Json → Json → Prop)
    (fields fields' : List (String × Json)) : Prop
  | intro {kept added : List (String × Json)} (hkept : Keyed R fields kept)
      (hadded : ∀ f ∈ added, f.1 ∉ names) (hperm : fields'.Perm (kept ++ added))
      (hnodup : (fields'.map Prod.fst).Nodup)

namespace Shape

/-- The second value is another spelling of the first.  A record may also stand as the sequence of
its values; they have their places then, and only what is inside them is spelled in another way. -/
def Respells : Shape → Json → Json → Prop
  | leaf, v, w => v = w
  | list item, v, w =>
    v = w ∨ ∃ items items', v = .array items ∧ w = .array items'
      ∧ List.Forall₂ item.Respells items items'
  | entries value, v, w =>
    v = w ∨ ∃ fields fields', v = .object fields ∧ w = .object fields'
      ∧ Keyed (fun key => (value key).Respells) fields fields'
  | record names inside, v, w =>
    v = w
      ∨ (∃ fields fields', v = .object fields ∧ w = .object fields'
          ∧ Rearranged names (fun name => (inside name).Respells) fields fields')
      ∨ ∃ items items', v = .array items ∧ w = .array items' ∧ items.length = items'.length
          ∧ Keyed (fun name => (inside name).Respells) (names.zip items) (names.zip items')

/-- A value is null in all spellings or in none. -/
theorem Respells.eq_null_iff {s : Shape} {v w : Json} (h : s.Respells v w) :
  v = .null ↔ w = .null
  := by
  cases s with
  | leaf =>
    obtain rfl : v = w := h
    rfl
  | list =>
    obtain rfl | ⟨items, items', rfl, rfl, -⟩ := h
    · rfl
    · simp
  | entries =>
    obtain rfl | ⟨fields, fields', rfl, rfl, -⟩ := h
    · rfl
    · simp
  | record =>
    obtain rfl | ⟨fields, fields', rfl, rfl, -⟩ | ⟨items, items', rfl, rfl, -⟩ := h
    · rfl
    · simp
    · simp

end Shape

/-! ### Look-ups -/

variable {R : String → Json → Json → Prop} {names : List String}
  {fields fields' : List (String × Json)}

/-- Fields of the same keys in the same order are found together. -/
theorem Keyed.rel_lookup (h : Keyed R fields fields') (name : String) :
  Option.Rel (R name) (fields.lookup name) (fields'.lookup name)
  := by
  induction h with
  | nil => exact .none
  | @cons f g rest rest' hfield hrest ih =>
    obtain ⟨key, v⟩ := f
    obtain ⟨key', w⟩ := g
    obtain ⟨hkey, hvalue⟩ := hfield
    obtain rfl : key = key' := hkey
    rw [Table.lookup_cons_eq, Table.lookup_cons_eq]
    split_ifs with hname
    · rw [hname]
      exact .some hvalue
    · exact ih

/-- The order of fields does not matter to a look-up if no key is repeated. -/
theorem lookup_eq_of_perm (h : fields'.Perm fields) (hnodup : (fields'.map Prod.fst).Nodup)
    (name : String) :
  fields'.lookup name = fields.lookup name
  := by
  have hnodup' : (fields.map Prod.fst).Nodup := (h.map Prod.fst).nodup_iff.mp hnodup
  ext v
  rw [Table.lookup_eq_some_iff_mem hnodup, Table.lookup_eq_some_iff_mem hnodup', h.mem_iff]

/-- Under a name there is what was there, wherever it stands now. -/
theorem Rearranged.rel_lookup (h : Rearranged names R fields fields') {name : String}
    (hname : name ∈ names) :
  Option.Rel (R name) (fields.lookup name) (fields'.lookup name)
  := by
  obtain @⟨kept, added, hkept, hadded, hperm, hnodup⟩ := h
  have hnone : added.lookup name = none :=
    lookup_eq_none_of_notMem fun f hf => (ne_of_mem_of_not_mem hname (hadded f hf)).symm
  rw [lookup_eq_of_perm hperm hnodup, List.lookup_append, hnone, Option.or_none]
  apply hkept.rel_lookup

/-- Two look-ups find the same under each name, in one spelling or another. -/
def Lookup.Alike (inside : String → Shape) (names : List String) (look look' : Lookup) : Prop :=
  ∀ name ∈ names,
    Option.Rel (inside name).Respells ((look name).map Prod.snd) ((look' name).map Prod.snd)

theorem Lookup.Alike.mono {inside : String → Shape} {look look' : Lookup} {names' : List String}
    (h : look.Alike inside names look') (hsub : names' ⊆ names) :
  look.Alike inside names' look'
  := fun name hname => h name (hsub hname)

/-- Look-ups in two objects are alike if the objects have the same under each name. -/
theorem alike_locate {inside : String → Shape}
    (h : ∀ name ∈ names,
      Option.Rel (inside name).Respells (fields.lookup name) (fields'.lookup name)) :
  (locate fields).Alike inside names (locate fields')
  := by
  intro name hname
  rw [locate, locate, map_snd_locateFrom, map_snd_locateFrom]
  apply h name hname

/-- Look-ups in two sequences are alike if each item is another spelling of the other. -/
theorem alike_locateItem {inside : String → Shape} {items items' : List Json}
    (h : Keyed (fun name => (inside name).Respells) (names.zip items) (names.zip items')) :
  (locateItem names items).Alike inside names (locateItem names items')
  := alike_locate fun name _ => h.rel_lookup name

/-! ### What succeeds in both ways -/

section

variable {ε ε' : Type}

theorem toOption_map (e : Except ε α) (f : α → β) :
  (e.map f).toOption = e.toOption.map f
  := by
  cases e with
  | error e => rfl
  | ok a => rfl

theorem toOption_mapError (e : Except ε α) (f : ε → ε') :
  (e.mapError f).toOption = e.toOption
  := by
  cases e with
  | error e => rfl
  | ok a => rfl

/-- Which mismatch is given does not matter to what is read after it. -/
theorem toOption_bind (e : Except ε α) (f : α → Except ε β) :
  (e >>= f).toOption = e.toOption.bind fun a => (f a).toOption
  := by
  cases e with
  | error e => rfl
  | ok a => rfl

/-- Two readings are joined only if both succeed, whichever mismatch is given. -/
theorem toOption_join (read : Except Fault (α → β)) (readArgument : Except Fault α) :
  (Record.join read readArgument).toOption
    = read.toOption.bind fun f => readArgument.toOption.map f
  := by
  cases read with
  | error e =>
    cases readArgument with
    | error e' => rfl
    | ok a => rfl
  | ok f =>
    cases readArgument with
    | error e' => rfl
    | ok a => rfl

/-- Lists whose items read alike one by one read alike. -/
theorem toOption_mapM {γ γ' : Type} {f : γ → Except ε α} {f' : γ' → Except ε α} {l : List γ}
    {l' : List γ'} (h : List.Forall₂ (fun x x' => (f x).toOption = (f' x').toOption) l l') :
  (l.mapM f).toOption = (l'.mapM f').toOption
  := by
  induction h with
  | nil => rfl
  | cons hitem _ ih =>
    rw [List.mapM_cons, List.mapM_cons, toOption_bind, toOption_bind, hitem]
    congr 1
    funext a
    rw [toOption_bind, toOption_bind, ih]

end

/-! ### Codecs -/

namespace Codec

/-- Of two spellings of a value a codec reads the same, or it reads neither. -/
def Respects (c : Codec α) (s : Shape) : Prop :=
  ∀ (m : Medium) (v w : Json), s.Respells v w →
    (c.decode m v).toOption = (c.decode m w).toOption

variable {c : Codec α} {s : Shape}

/-- Any codec respects a value of one spelling. -/
theorem respects_leaf (c : Codec α) :
  c.Respects .leaf
  := by
  intro m v w h
  obtain rfl : v = w := h
  rfl

/-- Null is null in all spellings. -/
theorem Respects.option (h : c.Respects s) :
  c.option.Respects s
  := by
  have hdecode (m : Medium) {v : Json} (hv : v ≠ .null) :
      c.option.decode m v = (c.decode m v).map some := by
    rw [Codec.option]
    dsimp only
    split
    · contradiction
    · rfl
  intro m v w hvw
  by_cases hv : v = .null
  · rw [hv, hvw.eq_null_iff.mp hv]
  · have hw : w ≠ .null := fun hw => hv (hvw.eq_null_iff.mpr hw)
    rw [hdecode m hv, hdecode m hw, toOption_map, toOption_map, h m v w hvw]

/-- A list is spelled by spelling its items. -/
theorem Respects.list (h : c.Respects s) :
  c.list.Respects (.list s)
  := by
  intro m v w hvw
  obtain rfl | ⟨items, items', rfl, rfl, hitems⟩ := hvw
  · rfl
  · exact toOption_mapM (hitems.imp fun v w => h m v w)

/-- A table is spelled by spelling its values. -/
theorem Respects.table (h : c.Respects s) :
  c.table.Respects (.entries fun _ => s)
  := by
  intro m v w hvw
  obtain rfl | ⟨fields, fields', rfl, rfl, hfields⟩ := hvw
  · rfl
  · have hdecode (fields : List (String × Json)) : c.table.decode m (.object fields)
        = (fields.mapM fun f => (c.decode m f.2).map (Prod.mk f.1)).map Table.ofList := rfl
    rw [hdecode, hdecode, toOption_map, toOption_map]
    congr 1
    apply toOption_mapM
    apply hfields.imp
    intro f g hfg
    rw [toOption_map, toOption_map, hfg.1, h m f.2 g.2 hfg.2]

end Codec

/-! ### Records -/

namespace Record

/-- Where the same is found, in one spelling or another, a part of a record reads the same or does
not read. -/
def Respects (r : Record σ α) (inside : String → Shape) : Prop :=
  ∀ (m : Medium) (look look' : Lookup), look.Alike inside r.names look' →
    (r.read m look).toOption = (r.read m look').toOption

variable {inside : String → Shape}

namespace Respects

theorem map {r : Record σ α} (f : α → β) (h : r.Respects inside) :
  (f <$> r).Respects inside
  := by
  intro m look look' hlook
  have hread (look : Lookup) : (f <$> r).read m look = (r.read m look).map f := rfl
  rw [hread, hread, toOption_map, toOption_map, h m look look' hlook]

/-- Two parts of a record respect a spelling if each does. -/
theorem seq {r : Record σ (α → β)} {s : Record σ α} (hr : r.Respects inside)
    (hs : s.Respects inside) :
  (r <*> s).Respects inside
  := by
  intro m look look' hlook
  have hread (look : Lookup) : (r <*> s).read m look = join (r.read m look) (s.read m look) := rfl
  have hnames : (r <*> s).names = r.names ++ s.names := rfl
  rw [hnames] at hlook
  rw [hread, hread, toOption_join, toOption_join,
    hr m look look' (hlook.mono (List.subset_append_left _ _)),
    hs m look look' (hlook.mono (List.subset_append_right _ _))]

/-- A field respects a spelling if its codec respects what is inside. -/
theorem field {name : String} {c : Codec α} {absent : Option α}
    {leaveOut : α → Bool} {get : σ → α} (h : c.Respects (inside name)) :
  (Record.field name c absent leaveOut get).Respects inside
  := by
  intro m look look' hlook
  have hname := hlook name (List.mem_singleton_self name)
  unfold Record.field
  dsimp only
  cases hfound : look name with
  | none =>
    rw [hfound] at hname
    cases hfound' : look' name with
    | none => rfl
    | some y =>
      rw [hfound'] at hname
      cases hname
  | some x =>
    rw [hfound] at hname
    cases hfound' : look' name with
    | none =>
      rw [hfound'] at hname
      cases hname
    | some y =>
      rw [hfound'] at hname
      cases hname with
      | some hvalue =>
        dsimp only
        rw [toOption_mapError, toOption_mapError, h m x.2 y.2 hvalue]

/-- A field whose values are spelled in one way. -/
theorem leaf {name : String} {c : Codec α} {absent : Option α}
    {leaveOut : α → Bool} {get : σ → α} (hinside : inside name = .leaf) :
  (Record.field name c absent leaveOut get).Respects inside
  := by
  apply Respects.field
  rw [hinside]
  apply Codec.respects_leaf

end Respects

/-! ### Records as codecs -/

theorem toOption_decodeItems (typeName : String) (r : Record σ α) (m : Medium)
    (items : List Json) :
  (r.decodeItems typeName m items).toOption
    = (r.read m (locateItem r.names items)).toOption.bind fun a =>
        if (r.tooMany m).isSome ∧ r.names.length < items.length then none else some a
  := by
  rw [decodeItems]
  cases r.read m (locateItem r.names items) with
  | error fault => rfl
  | ok a =>
    cases r.tooMany m with
    | none => rfl
    | some expected =>
      dsimp only
      by_cases hlength : r.names.length < items.length
      · rw [if_pos hlength]
        simp [Except.toOption, hlength]
      · rw [if_neg hlength]
        simp [Except.toOption, hlength]

/-- A record reads the same of fields that have the same under each of its names. -/
theorem Respects.decodeFields {r : Record σ α} (h : r.Respects inside) (m : Medium)
    (hfields : ∀ name ∈ r.names,
      Option.Rel (inside name).Respells (fields.lookup name) (fields'.lookup name)) :
  (r.decodeFields m fields).toOption = (r.decodeFields m fields').toOption
  := by
  rw [Record.decodeFields, Record.decodeFields, toOption_mapError, toOption_mapError,
    h m _ _ (alike_locate hfields)]

/-- A record is the same in whatever order its fields stand, and whatever stands beside them. -/
theorem Respects.codec {r : Record α α} {typeName : String} (h : r.Respects inside) :
  (r.codec typeName).Respects (.record r.names inside)
  := by
  intro m v w hvw
  obtain rfl | ⟨fields, fields', rfl, rfl, hfields⟩ | ⟨items, items', rfl, rfl, hlength, hitems⟩ :=
    hvw
  · rfl
  · exact h.decodeFields m fun name hname => hfields.rel_lookup hname
  · have hdecode (items : List Json) :
        (r.codec typeName).decode m (.array items) = r.decodeItems typeName m items := rfl
    rw [hdecode, hdecode, toOption_decodeItems, toOption_decodeItems, hlength,
      h m _ _ (alike_locateItem hitems)]

/-! ### Records with a part in the same object -/

theorem toOption_decode_codecWith {own : Record σ α}
    {readPart : List (String × Json) → Except Mismatch β} {writePart : σ → List (String × Json)}
    {build : α → β → σ} {typeName : String} (m : Medium) (fields : List (String × Json)) :
  ((own.codecWith typeName readPart writePart build).decode m (.object fields)).toOption
    = (own.decodeFields m fields).toOption.bind fun a =>
        (readPart (own.others fields)).toOption.map (build a)
  := by
  have hdecode : (own.codecWith typeName readPart writePart build).decode m (.object fields)
      = (do
        let a ← own.decodeFields m fields
        let b ← readPart (own.others fields)
        return build a b) := rfl
  rw [hdecode, toOption_bind]
  congr 1
  funext a
  rw [toOption_bind]
  cases readPart (own.others fields) with
  | error e => rfl
  | ok b => rfl

/-- Fields of other names than the own ones are found among the fields that are left over. -/
theorem lookup_others {own : Record σ α} {name : String} (hname : name ∉ own.names)
    (fields : List (String × Json)) :
  (own.others fields).lookup name = fields.lookup name
  := by
  rw [others]
  induction fields with
  | nil => rfl
  | cons f rest ih =>
    obtain ⟨key, v⟩ := f
    rw [List.filter_cons, Table.lookup_cons_eq]
    by_cases hkey : name = key
    · have hown : (!own.names.contains key) = true := by
        rw [← hkey]
        simp [hname]
      rw [if_pos hown, Table.lookup_cons_eq, if_pos hkey, if_pos hkey]
    · split_ifs with hown
      · rw [Table.lookup_cons_eq, if_neg hkey, ih]
      · exact ih

/-- A record with another one in the same object, under other names. -/
theorem Respects.codecWith {own : Record σ α} {part : Record τ β} {typeName : String}
    {writePart : σ → List (String × Json)} {build : α → β → σ} (hown : own.Respects inside)
    (hpart : part.Respects inside) (hapart : ∀ name ∈ part.names, name ∉ own.names) (m : Medium) :
  (own.codecWith typeName (part.decodeFields m) writePart build).Respects
    (.record (own.names ++ part.names) inside)
  := by
  intro m' v w hvw
  obtain rfl | ⟨fields, fields', rfl, rfl, hfields⟩ | ⟨items, items', rfl, rfl, -⟩ := hvw
  · rfl
  · have hownFields := hown.decodeFields m' fun name hname =>
      hfields.rel_lookup (List.mem_append_left _ hname)
    have hpartFields : (part.decodeFields m (own.others fields)).toOption
        = (part.decodeFields m (own.others fields')).toOption := by
      apply hpart.decodeFields
      intro name hname
      rw [lookup_others (hapart name hname), lookup_others (hapart name hname)]
      apply hfields.rel_lookup (List.mem_append_right _ hname)
    rw [toOption_decode_codecWith, toOption_decode_codecWith, hownFields, hpartFields]
  · rfl

/-- Fields that are spelled in one way are left over as they are. -/
theorem others_eq_of_keyed {own : Record σ α}
    (hinside : ∀ name, name ∉ own.names → inside name = .leaf)
    (h : Keyed (fun name => (inside name).Respells) fields fields') :
  own.others fields = own.others fields'
  := by
  induction h with
  | nil => rfl
  | @cons f g rest rest' hfg _ ih =>
    obtain ⟨key, v⟩ := f
    obtain ⟨key', w⟩ := g
    obtain ⟨hkey, hvalue⟩ := hfg
    obtain rfl : key = key' := hkey
    rw [others, others, List.filter_cons, List.filter_cons]
    split_ifs with hown
    · have hname : key ∉ own.names := by simpa using hown
      dsimp only at hvalue
      rw [hinside key hname] at hvalue
      obtain rfl : v = w := hvalue
      exact congrArg _ ih
    · exact ih

/-- A record that keeps the fields it does not name, in their order. -/
theorem Respects.codecWith_ok {own : Record σ α} {typeName : String}
    {writePart : σ → List (String × Json)} {build : α → List (String × Json) → σ}
    (hown : own.Respects inside) (hinside : ∀ name, name ∉ own.names → inside name = .leaf) :
  (own.codecWith typeName .ok writePart build).Respects (.entries inside)
  := by
  intro m v w hvw
  obtain rfl | ⟨fields, fields', rfl, rfl, hfields⟩ := hvw
  · rfl
  · rw [toOption_decode_codecWith, toOption_decode_codecWith, others_eq_of_keyed hinside hfields,
      hown.decodeFields m fun name _ => hfields.rel_lookup name]

end Record

end InteractionRouting.Wire
