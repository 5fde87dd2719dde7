import InteractionRouting.Proofs.Config.Overlay
import InteractionRouting.Proofs.Wire.RecordRoundTrip

/-!
# Settings come back

What is read of a setting is written as the same setting.  So whatever a record is read from, at the
end of each path of keys that leads to a part of it, it is written with what stood there.
-/

namespace InteractionRouting.Wire.Codec

variable {α β γ : Type}

/-! ### Single values -/

/-- What is read of a setting is written as the same setting. -/
def Echoes (c : Codec α) : Prop :=
  ∀ {v : Json} {a : α}, ¬Config.IsTable v → c.decode .layered v = .ok a → c.encode a = v

/-- Nothing is written as a table. -/
def IsPlain (c : Codec α) : Prop :=
  ∀ a, ¬Config.IsTable (c.encode a) ∧ (c.encode a).HasDistinctKeys

/-- A flag is written as the setting it was read of. -/
theorem echoes_flag :
  flag.Echoes
  := by
  intro v b _ h
  cases v with
  | bool b' => rw [← Except.ok.inj h]; rfl
  | null | int | float | string | array | object => contradiction

/-- A flag is never written as a table. -/
theorem isPlain_flag :
  flag.IsPlain
  := fun _ => ⟨Config.not_isTable nofun, rfl⟩

/-- A path that may be missing is written as the setting it was read of. -/
theorem echoes_option_path :
  path.option.Echoes
  := by
  intro v o _ h
  cases v with
  | null => rw [← Except.ok.inj h]; rfl
  | string s => rw [← Except.ok.inj h]; rfl
  | bool | int | float | array | object => contradiction

theorem isPlain_option_path :
  path.option.IsPlain
  := by
  intro o
  cases o with
  | none => exact ⟨Config.not_isTable nofun, rfl⟩
  | some s => exact ⟨Config.not_isTable nofun, rfl⟩

/-- A word that was read of an integer is that integer. -/
theorem toNat_of_unsigned? {i : Int} {n : UInt64}
    (h : (unsigned? 64 i).map UInt64.ofNat = some n) :
  (n.toNat : Int) = i
  := by
  rw [unsigned?] at h
  split_ifs at h with hrange
  · rw [Option.map_some, Option.some.injEq] at h
    have hlt : i.toNat < 2 ^ 64 := by
      have := hrange.2
      simp only [Nat.pow_eq] at this
      omega
    rw [← h, UInt64.toNat_ofNat_of_lt' hlt]
    omega
  · contradiction

/-- A size is written as an integer. -/
theorem encode_size (n : UInt64) :
  size.encode n = .ofInt n.toNat
  := by
  rw [size, integer]

/-- A size is written as the setting it was read of. -/
theorem echoes_size :
  size.Echoes
  := by
  intro v n _ h
  cases v with
  | int i =>
    rw [size, integer] at h
    dsimp only at h
    split at h
    · next a ha =>
      obtain rfl := Except.ok.inj h
      rw [encode_size, toNat_of_unsigned? ha, Json.ofInt, WideInt.ofInt?_val]
    · contradiction
  | null | bool | float | string | array | object => contradiction

theorem isPlain_size :
  size.IsPlain
  := by
  intro n
  rw [encode_size, Json.ofInt]
  split
  · exact ⟨Config.not_isTable (by rintro _ ⟨⟩), rfl⟩
  · rw [Json.ofFloat]
    split_ifs
    · exact ⟨Config.not_isTable (by rintro _ ⟨⟩), rfl⟩
    · exact ⟨Config.not_isTable (by rintro _ ⟨⟩), rfl⟩

/-- A name that is known is written as it is read.  No name is known by the word that a date is
kept under. -/
theorem echoes_naming {n : Naming α} (hfallback : n.fallback = none)
    (hnames : ∀ e ∈ n.names, n.name e.2 = e.1) (hdate : n.names.lookup "moment" = none) :
  n.codec.Echoes
  := by
  intro v a hplain h
  cases v with
  | string s =>
    have h : n.value s = .ok a := h
    rw [Naming.value, hfallback] at h
    split at h
    · next a' hlookup =>
      obtain rfl := Except.ok.inj h
      obtain ⟨before, after, hsplit, -⟩ := List.lookup_eq_some_iff.mp hlookup
      have hmem : (s, a') ∈ n.names := by
        rw [hsplit]
        simp
      exact congrArg Json.string (hnames (s, a') hmem)
    · contradiction
    · contradiction
  | object fields =>
    exfalso
    apply hplain
    use ⟨fields, rfl⟩
    rintro text htext
    have h : n.decode .layered (.object fields) = .ok a := h
    rw [htext, Toml.moment, Naming.decode] at h
    dsimp only [Naming.namingField?] at h
    rw [Naming.value, hfallback, hdate] at h
    contradiction
  | null | bool | int | float | array => contradiction

/-- What is known by its name is never written as a table. -/
theorem isPlain_naming (n : Naming α) :
  n.codec.IsPlain
  := fun _ => ⟨Config.not_isTable nofun, rfl⟩

/-! ### Tables -/

/-- The entries of a table, read of the fields of an object. -/
def ReadsEntries (c : Codec α) (fields : List (String × Json)) (entries : List (String × α)) :
    Prop :=
  List.Forall₂ (fun f e => (c.decode .layered f.2).map (Prod.mk f.1) = .ok e) fields entries

/-- The entries that are read of fields have the keys of the fields, in order. -/
theorem ReadsEntries.keys_eq {c : Codec α} {fields : List (String × Json)}
    {entries : List (String × α)} (h : c.ReadsEntries fields entries) :
  entries.map Prod.fst = fields.map Prod.fst
  := by
  induction h with
  | nil => rfl
  | cons hf _ ih =>
    obtain ⟨a, -, rfl⟩ := exists_of_map_eq_ok hf
    rw [List.map_cons, List.map_cons, ih]

/-- The entries that were read of fields are written as what stands in the fields, where that is no
table. -/
theorem ReadsEntries.lookup_eq {c : Codec α} (hc : c.Echoes) {fields : List (String × Json)}
    {entries : List (String × α)} (h : c.ReadsEntries fields entries) {key : String}
    (hplain : ∀ w ∈ fields.lookup key, ¬Config.IsTable w) :
  (entries.map fun e => (e.1, c.encode e.2)).lookup key = fields.lookup key
  := by
  induction h with
  | nil => rfl
  | @cons f e fields entries hf _ ih =>
    obtain ⟨a, ha, rfl⟩ := exists_of_map_eq_ok hf
    rw [Table.lookup_cons_eq] at hplain
    rw [List.map_cons, Table.lookup_cons_eq, Table.lookup_cons_eq]
    by_cases hkey : key = f.1
    · rw [if_pos hkey] at hplain
      rw [if_pos hkey, if_pos hkey, hc (hplain f.2 rfl) ha]
    · rw [if_neg hkey] at hplain
      rw [if_neg hkey, if_neg hkey]
      apply ih hplain

/-- A table that is read holds under each key what stands there, if that is no table. -/
theorem get?_encode_table {c : Codec α} (hc : c.Echoes) {v : Json} {t : Table α}
    (hdistinct : v.HasDistinctKeys) (h : c.table.decode .layered v = .ok t) {key : String}
    (hplain : ∀ w ∈ v.get? key, ¬Config.IsTable w) :
  (c.table.encode t).get? key = v.get? key
  := by
  cases v with
  | object fields =>
    have h : (fields.mapM fun f => (c.decode .layered f.2).map (Prod.mk f.1)).map Table.ofList
        = .ok t := h
    obtain ⟨entries, hentries, rfl⟩ := exists_of_map_eq_ok h
    have hread : c.ReadsEntries fields entries :=
      mapM_eq_ok_iff.mp hentries
    have hnodup := (Json.hasDistinctKeys_object_iff.mp hdistinct).1
    rw [← hread.keys_eq] at hnodup
    change ((Table.ofList entries).entries.map fun e => (e.1, c.encode e.2)).lookup key
      = fields.lookup key
    rw [Table.entries_ofList hnodup]
    apply hread.lookup_eq hc hplain
  | null | bool | int | float | string | array => contradiction

/-! ### Records -/

/-- The values of a type hold, at the end of a path of keys, values of another type. -/
structure Holds (c : Codec α) (path : List String) (d : Codec β) (get : α → β) : Prop where
  decode : ∀ {v u : Json} {a : α}, Config.Leads path v → Config.setting? path v = some u →
    c.decode .layered v = .ok a → d.decode .layered u = .ok (get a)
  encode : ∀ a, Config.setting? path (c.encode a) = some (d.encode (get a))

/-- What is held by something that is held is held, at the end of both paths. -/
theorem Holds.trans {c : Codec α} {d : Codec β} {e : Codec γ} {path more : List String}
    {get : α → β} {get' : β → γ} (h : c.Holds path d get) (h' : d.Holds more e get') :
  c.Holds (path ++ more) e (get' ∘ get)
  where
  decode := by
    intro v u a hleads hsetting hdecode
    rw [Config.setting?_append] at hsetting
    obtain ⟨w, hw, hu⟩ := Option.bind_eq_some_iff.mp hsetting
    apply h'.decode (hleads.of_setting? hw) hu
    apply h.decode hleads.of_append hw hdecode
  encode := by
    intro a
    rw [Config.setting?_append, h.encode, Option.bind_some, h'.encode]
    rfl

/-- A value is read of the field of a name, if there is such a field. -/
def ReadsField (d : Codec β) (fields : List (String × Json)) (name : String) (b : β) : Prop :=
  ∀ u, fields.lookup name = some u → d.decode .layered u = .ok b

/-- What is read in the place of a name is read of the field of that name. -/
theorem readsField_of_field {σ : Type} {name : String} {d : Codec β} {absent : Option β}
    {leaveOut : β → Bool} {get : σ → β} {fields : List (String × Json)} {b : β}
    (h : (Record.field name d absent leaveOut get).read .layered (locate fields) = .ok b) :
  d.ReadsField fields name b
  := by
  intro u hu
  rw [← map_snd_locateFrom 0, Option.map_eq_some_iff] at hu
  obtain ⟨⟨i, w⟩, hfound, rfl⟩ := hu
  have hfound : locate fields name = some (i, w) := hfound
  unfold Record.field at h
  dsimp only at h
  rw [hfound] at h
  exact eq_ok_of_mapError_eq_ok h

/-- The field of a record. -/
theorem holds_field {r : Record α α} {typeName name : String} {d : Codec β} {get : α → β}
    (hread : ∀ {fields : List (String × Json)} {a : α}, r.read .layered (locate fields) = .ok a →
      d.ReadsField fields name (get a))
    (hwrite : ∀ a, (r.write a).lookup name = some (d.encode (get a))) :
  (r.codec typeName).Holds [name] d get
  where
  decode := by
    rintro v u a ⟨⟨fields, rfl⟩, -⟩ hsetting hdecode
    obtain ⟨w, hw, hu⟩ := Option.bind_eq_some_iff.mp hsetting
    obtain rfl := Option.some.inj hu
    apply hread (eq_ok_of_mapError_eq_ok hdecode) w hw
  encode := by
    intro a
    have hget : ((r.codec typeName).encode a).get? name = some (d.encode (get a)) := hwrite a
    rw [Config.setting?, hget]
    rfl

end InteractionRouting.Wire.Codec
