import InteractionRouting.Config.Loader
import InteractionRouting.Proofs.Config.Overlay
import InteractionRouting.Proofs.Text.Splitting
import InteractionRouting.Proofs.Toml.DistinctKeys

/-!
# Layers that are read

Whether it is read from a file, from a variable or from a single setting, a layer is an object, and
no object in it repeats a key.
-/

namespace InteractionRouting.Config

/-- An object in which no object repeats a key. -/
structure IsLayer (v : Json) : Prop where
  object : ∃ fields, v = .object fields
  distinct : v.HasDistinctKeys

/-! ### Single settings -/

/-- A value inside tables that hold nothing else repeats a key only if it did before. -/
theorem hasDistinctKeys_nested (path : List String) {v : Json} (h : v.HasDistinctKeys) :
  (nested path v).HasDistinctKeys
  := by
  induction path with
  | nil => apply h
  | cons key path ih =>
    rw [nested, Json.hasDistinctKeys_object_iff, List.forall_mem_singleton]
    exact ⟨by simp, ih⟩

/-- A single setting makes a layer. -/
theorem isLayer_of_settingLayer {entry : String × Json} {v : Json}
    (h : entry.2.HasDistinctKeys) (hlayer : Loader.settingLayer entry = some v) :
  IsLayer v
  := by
  have hnested := hasDistinctKeys_nested (Loader.settingKeys entry.1) h
  rw [Loader.settingLayer] at hlayer
  split at hlayer
  · next fields hfields =>
    rw [hfields] at hnested
    rw [← Option.some.inj hlayer]
    exact ⟨⟨fields, rfl⟩, hnested⟩
  · contradiction

/-! ### Files -/

/-- A file that is read makes a layer. -/
theorem isLayer_of_fileLayer {s : Surroundings} {path : String} {v : Json}
    (h : Loader.fileLayer s path = .ok (some v)) :
  IsLayer v
  := by
  rw [Loader.fileLayer] at h
  split_ifs at h
  split at h
  · obtain ⟨hobject, hdistinct⟩ := Toml.hasDistinctKeys_of_parse (Except.ok.inj h)
    exact ⟨hobject, hdistinct⟩
  · rw [← Option.some.inj (Except.ok.inj h)]
    exact ⟨⟨[], rfl⟩, by decide⟩

/-! ### Variables -/

namespace Variables

open Toml (Reader Gives)

/-- A decimal number repeats no key. -/
theorem hasDistinctKeys_of_decimal? {cs : List Char} {v : Json} (h : decimal? cs = some v) :
  v.HasDistinctKeys
  := by
  obtain ⟨⟨digits, places⟩, -, h⟩ := Option.bind_eq_some_iff.mp h
  dsimp only at h
  split at h
  · rw [← Option.some.inj h]
    rfl
  · split at h
    · contradiction
    · rw [← Option.some.inj h]
      rfl

/-- An integer repeats no key. -/
theorem hasDistinctKeys_of_integer? {cs : List Char} {v : Json} (h : integer? cs = some v) :
  v.HasDistinctKeys
  := by
  rw [integer?] at h
  dsimp only at h
  split_ifs at h
  all_goals
    obtain ⟨i, -, rfl⟩ := Option.map_eq_some_iff.mp h
    rfl

/-- A bare word repeats no key, whatever it stands for. -/
theorem hasDistinctKeys_bare (cs : List Char) :
  (bare cs).HasDistinctKeys
  := by
  rw [bare]
  cases hdecimal : if cs.contains '.' then decimal? cs else none with
  | some v =>
    rw [Option.ite_none_right_eq_some] at hdecimal
    apply hasDistinctKeys_of_decimal? hdecimal.2
  | none =>
    cases hinteger : integer? cs with
    | some v => apply hasDistinctKeys_of_integer? hinteger
    | none => rfl

/-- What holds of every item that is read holds of all items up to the closing character. -/
theorem gives_collect {α : Type} {item : Reader α} {P : α → Prop} (h : Gives item P)
    (close : Char) (fuel : Nat) :
  Gives (collect item close fuel) fun l => ∀ a ∈ l, P a
  := by
  intro cs l rest hread
  induction fuel generalizing cs l with
  | zero => contradiction
  | succ fuel ih =>
    rw [collect] at hread
    split at hread
    · rw [← (Prod.mk.inj (Option.some.inj hread)).1]
      nofun
    · obtain ⟨⟨a, rest'⟩, ha, hread⟩ := Option.bind_eq_some_iff.mp hread
      dsimp only at hread
      split at hread
      · obtain ⟨⟨more, rest''⟩, hmore, hread⟩ := Option.bind_eq_some_iff.mp hread
        obtain ⟨rfl, rfl⟩ := Prod.mk.inj (Option.some.inj hread)
        rw [List.forall_mem_cons]
        exact ⟨h ha, ih hmore⟩
      · obtain ⟨rest'', -, hread⟩ := Option.bind_eq_some_iff.mp hread
        rw [← (Prod.mk.inj (Option.some.inj hread)).1, List.forall_mem_singleton]
        apply h ha

/-- A pair has a value in which no key is repeated. -/
theorem gives_pair {value : Reader Json} (h : Gives value Json.HasDistinctKeys) :
  Gives (pair value) fun f => f.2.HasDistinctKeys
  := by
  intro cs f rest hread
  obtain ⟨⟨name, rest'⟩, -, hread⟩ := Option.bind_eq_some_iff.mp hread
  obtain ⟨rest'', -, hread⟩ := Option.bind_eq_some_iff.mp hread
  obtain ⟨⟨v, rest'''⟩, hv, hread⟩ := Option.bind_eq_some_iff.mp hread
  rw [← (Prod.mk.inj (Option.some.inj hread)).1]
  apply h hv

/-- No key is repeated in a value, in an array or in a table of values that are read without the
blanks around them. -/
theorem gives_unspaced {inner : Reader Json} (h : Gives inner Json.HasDistinctKeys) :
  Gives (unspaced inner) Json.HasDistinctKeys
  := by
  intro cs v rest hread
  rw [unspaced.eq_def] at hread
  split at hread
  · rw [← (Prod.mk.inj (Option.some.inj hread)).1]
    rfl
  · rw [← (Prod.mk.inj (Option.some.inj hread)).1]
    rfl
  · obtain ⟨⟨fields, rest'⟩, hfields, heq⟩ := Option.map_eq_some_iff.mp hread
    rw [← (Prod.mk.inj heq).1, Json.hasDistinctKeys_object_iff]
    use (Table.ofList fields).nodup
    intro f hf
    apply gives_collect (gives_pair h) _ _ hfields f (Table.mem_of_mem_entries_ofList hf)
  · obtain ⟨⟨items, rest'⟩, hitems, heq⟩ := Option.map_eq_some_iff.mp hread
    rw [← (Prod.mk.inj heq).1, Json.hasDistinctKeys_array_iff]
    apply gives_collect h _ _ hitems
  · obtain ⟨⟨s, rest'⟩, -, heq⟩ := Option.map_eq_some_iff.mp hread
    rw [← (Prod.mk.inj heq).1]
    rfl
  · split at hread
    · rw [← (Prod.mk.inj (Option.some.inj hread)).1]
      rfl
    · contradiction
  · rw [← (Prod.mk.inj (Option.some.inj hread)).1]
    apply hasDistinctKeys_bare

/-- In what is read of a variable no key is repeated, however deep it is nested. -/
theorem gives_spaced (depth : Nat) :
  Gives (spaced depth) Json.HasDistinctKeys
  := by
  induction depth with
  | zero => nofun
  | succ depth ih =>
    intro cs v rest hread
    obtain ⟨⟨w, rest'⟩, hw, heq⟩ := Option.map_eq_some_iff.mp hread
    rw [← (Prod.mk.inj heq).1]
    apply gives_unspaced ih hw

/-- No key is repeated in the value of a variable. -/
theorem hasDistinctKeys_value (text : String) :
  (value text).HasDistinctKeys
  := by
  rw [value]
  split
  · next v hv => apply gives_spaced _ hv
  · rfl

/-- The name of a variable has at least one key. -/
theorem ne_nil_of_keys? {name : String} {keys : List String} (h : keys? name = some keys) :
  keys ≠ []
  := by
  obtain ⟨rest, -, h⟩ := Option.bind_eq_some_iff.mp h
  dsimp only at h
  split_ifs at h
  rw [← Option.some.inj h]
  apply Text.splitOn_singleton_ne_nil _ '.'

/-- A variable that is a setting makes a layer. -/
theorem isLayer_of_layerOf? {entry : String × String} {v : Json} (h : layerOf? entry = some v) :
  IsLayer v
  := by
  obtain ⟨keys, hkeys, rfl⟩ := Option.map_eq_some_iff.mp h
  constructor
  · obtain ⟨key, path, rfl⟩ := List.exists_cons_of_ne_nil (ne_nil_of_keys? hkeys)
    exact ⟨_, rfl⟩
  · apply hasDistinctKeys_nested _
    apply hasDistinctKeys_value

end Variables

end InteractionRouting.Config
