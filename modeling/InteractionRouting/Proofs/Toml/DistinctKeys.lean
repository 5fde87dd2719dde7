import InteractionRouting.Proofs.Json.Shape
import InteractionRouting.Toml.Reader
import Mathlib.Data.List.Infix
import Mathlib.Tactic.Common

/-!
# Documents set no key twice

Wherever keys are set in a tree of tables, no table gets two entries of one key.  So no object in a
document that was read repeats a key.
-/

namespace InteractionRouting.Toml

/-! ### Trees -/

/-- The fields of an object are the entries, each with its node as JSON. -/
theorem entriesToJson_eq (entries : Entries) :
  entriesToJson entries = entries.map fun e => (e.1, e.2.toJson)
  := by
  induction entries with
  | nil => rfl
  | cons e rest ih => rw [entriesToJson, ih, List.map_cons]

/-- The items of an array are the tables, each as an object. -/
theorem itemsToJson_eq (items : List Entries) :
  itemsToJson items = items.map fun entries => .object (entriesToJson entries)
  := by
  induction items with
  | nil => rfl
  | cons entries rest ih => rw [itemsToJson, ih, List.map_cons]

/-- No table among the entries has two entries of one key. -/
def DistinctKeys (entries : Entries) : Prop := (Json.object (entriesToJson entries)).HasDistinctKeys

/-- A table keeps its keys apart if no two entries have one key, and if each node keeps them apart.
-/
theorem distinctKeys_iff {entries : Entries} :
  DistinctKeys entries
    ↔ (entries.map Prod.fst).Nodup ∧ ∀ e ∈ entries, e.2.toJson.HasDistinctKeys
  := by
  rw [DistinctKeys, Json.hasDistinctKeys_object_iff, entriesToJson_eq, List.map_map,
    List.forall_mem_map]
  rfl

theorem distinctKeys_nil :
  DistinctKeys []
  := by
  rw [distinctKeys_iff]
  exact ⟨List.nodup_nil, nofun⟩

/-- An array of tables keeps keys apart if each of its tables does. -/
theorem hasDistinctKeys_tables_iff {items : List Entries} :
  (Node.tables items).toJson.HasDistinctKeys ↔ ∀ entries ∈ items, DistinctKeys entries
  := by
  rw [Node.toJson, itemsToJson_eq, Json.hasDistinctKeys_array_iff, List.forall_mem_map]
  rfl

/-- What stands under a key keeps its own keys apart. -/
theorem DistinctKeys.node {entries : Entries} (h : DistinctKeys entries) {key : String} {n : Node}
    (hn : entries.lookup key = some n) :
  n.toJson.HasDistinctKeys
  := by
  rw [distinctKeys_iff] at h
  apply h.2 (key, n)
  apply (Table.lookup_eq_some_iff_mem h.1).mp hn

/-- An entry takes the place of the one of its key. -/
theorem DistinctKeys.insertEntry {entries : Entries} (h : DistinctKeys entries) (key : String)
    {n : Node} (hn : n.toJson.HasDistinctKeys) :
  DistinctKeys (Table.insertEntry key n entries)
  := by
  rw [distinctKeys_iff] at h ⊢
  constructor
  · apply Table.nodup_insertEntry h.1
  · intro e he
    obtain rfl | he := Table.mem_of_mem_insertEntry he
    · apply hn
    · apply h.2 e he

/-- A new entry goes to the end. -/
theorem DistinctKeys.concat {entries : Entries} (h : DistinctKeys entries) {key : String}
    (hkey : entries.lookup key = none) {n : Node} (hn : n.toJson.HasDistinctKeys) :
  DistinctKeys (entries ++ [(key, n)])
  := by
  have hnew : key ∉ entries.map Prod.fst := by
    rw [List.lookup_eq_none_iff] at hkey
    rintro hmem
    obtain ⟨e, he, rfl⟩ := List.mem_map.mp hmem
    simpa using hkey e he
  rw [← Table.insertEntry_of_notMem hnew]
  apply h.insertEntry key hn

/-- A change that sets no key twice may be made anywhere in the tree. -/
theorem DistinctKeys.within {making : Making} {change : Making → Entries → Option Entries}
    (hchange : ∀ made entries entries', DistinctKeys entries → change made entries = some entries' →
      DistinctKeys entries')
    {path : List String} {made : Making} {entries entries' : Entries} (h : DistinctKeys entries)
    (hwithin : within making change path made entries = some entries') :
  DistinctKeys entries'
  := by
  induction path generalizing made entries entries' with
  | nil => apply hchange made entries entries' h hwithin
  | cons key path ih =>
    rw [Toml.within] at hwithin
    cases hnode : entries.lookup key with
    | none =>
      rw [hnode] at hwithin
      obtain ⟨inner, hinner, hset⟩ := Option.bind_eq_some_iff.mp hwithin
      rw [← Option.some.inj hset]
      apply h.insertEntry key
      exact ih distinctKeys_nil hinner
    | some n =>
      have hn := h.node hnode
      rw [hnode] at hwithin
      cases n with
      | value v => contradiction
      | table made' inner =>
        dsimp only at hwithin
        split_ifs at hwithin
        obtain ⟨inner', hinner, hset⟩ := Option.bind_eq_some_iff.mp hwithin
        rw [← Option.some.inj hset]
        apply h.insertEntry key
        exact ih hn hinner
      | tables items =>
        dsimp only at hwithin
        cases hlast : items.getLast? with
        | none =>
          rw [hlast] at hwithin
          contradiction
        | some last =>
          rw [hlast] at hwithin
          obtain ⟨last', hlast', hset⟩ := Option.bind_eq_some_iff.mp hwithin
          rw [← Option.some.inj hset]
          rw [hasDistinctKeys_tables_iff] at hn
          apply h.insertEntry key
          rw [hasDistinctKeys_tables_iff, List.forall_mem_append, List.forall_mem_singleton]
          constructor
          · intro entries hentries
            apply hn entries (List.mem_of_mem_dropLast hentries)
          · apply ih (hn last (List.mem_of_getLast? hlast)) hlast'

/-- A dotted key is set in the table that it leads to. -/
theorem DistinctKeys.setKey {path : List String} {key : String} {v : Json} {making : Making}
    {entries entries' : Entries} (h : DistinctKeys entries) (hv : v.HasDistinctKeys)
    (hset : setKey path key v making entries = some entries') :
  DistinctKeys entries'
  := by
  apply h.within _ hset
  intro made entries entries' h hset
  rw [Option.ite_none_left_eq_some, Option.some.injEq, Bool.or_eq_true, not_or,
    Option.not_isSome_iff_eq_none] at hset
  obtain ⟨⟨-, hkey⟩, rfl⟩ := hset
  apply h.concat hkey
  exact hv

/-- A header opens a table that was not opened before. -/
theorem DistinctKeys.openTable {path : List String} {key : String} {entries entries' : Entries}
    (h : DistinctKeys entries) (hopen : openTable path key entries = some entries') :
  DistinctKeys entries'
  := by
  apply h.within _ hopen
  intro made entries entries' h hopen
  split at hopen
  · next hkey =>
    rw [← Option.some.inj hopen]
    apply h.concat hkey
    exact distinctKeys_nil
  · next inner hkey =>
    rw [← Option.some.inj hopen]
    have hinner : DistinctKeys inner := h.node hkey
    apply h.insertEntry key
    exact hinner
  · contradiction

/-- A header of two brackets adds a table to an array. -/
theorem DistinctKeys.addTable {path : List String} {key : String} {entries entries' : Entries}
    (h : DistinctKeys entries) (hadd : addTable path key entries = some entries') :
  DistinctKeys entries'
  := by
  apply h.within _ hadd
  intro made entries entries' h hadd
  split at hadd
  · next hkey =>
    rw [← Option.some.inj hadd]
    apply h.concat hkey
    rw [hasDistinctKeys_tables_iff, List.forall_mem_singleton]
    apply distinctKeys_nil
  · next items hkey =>
    have hitems := hasDistinctKeys_tables_iff.mp (h.node hkey)
    rw [← Option.some.inj hadd]
    apply h.insertEntry key
    rw [hasDistinctKeys_tables_iff, List.forall_mem_append, List.forall_mem_singleton]
    exact ⟨hitems, distinctKeys_nil⟩
  · contradiction

/-- A key is set in the table that was opened last. -/
theorem DistinctKeys.setBelow {opened path : List String} {key : String} {v : Json}
    {entries entries' : Entries} (h : DistinctKeys entries) (hv : v.HasDistinctKeys)
    (hset : setBelow opened path key v entries = some entries') :
  DistinctKeys entries'
  := by
  apply h.within _ hset
  intro made entries entries' h hset
  apply h.setKey hv hset

/-! ### Values -/

/-- Whatever is read satisfies `P`. -/
def Gives {α : Type} (r : Reader α) (P : α → Prop) : Prop :=
  ∀ {cs : List Char} {a : α} {rest : List Char}, r cs = some (a, rest) → P a

/-- A date or a time is an object of one key. -/
theorem hasDistinctKeys_moment (cs : List Char) :
  (moment cs).HasDistinctKeys
  := by
  rw [moment, Json.hasDistinctKeys_object_iff]
  simp [Json.HasDistinctKeys, Json.every]

theorem hasDistinctKeys_of_ofSigned? {i : Int} {v : Json} (h : ofSigned? i = some v) :
  v.HasDistinctKeys
  := by
  rw [ofSigned?, Option.ite_none_right_eq_some] at h
  obtain ⟨w, -, rfl⟩ := Option.map_eq_some_iff.mp h.2
  rfl

theorem hasDistinctKeys_of_based? {base : Nat} {digits : List Char} {v : Json}
    (h : based? base digits = some v) :
  v.HasDistinctKeys
  := by
  obtain ⟨_, -, h⟩ := Option.bind_eq_some_iff.mp h
  apply hasDistinctKeys_of_ofSigned? h

theorem hasDistinctKeys_of_integer? {cs : List Char} {v : Json} (h : integer? cs = some v) :
  v.HasDistinctKeys
  := by
  rw [integer?.eq_def] at h
  split at h
  · apply hasDistinctKeys_of_based? h
  · apply hasDistinctKeys_of_based? h
  · apply hasDistinctKeys_of_based? h
  · obtain ⟨_, -, h⟩ := Option.bind_eq_some_iff.mp h
    apply hasDistinctKeys_of_ofSigned? h

theorem hasDistinctKeys_of_decimal? {cs : List Char} {v : Json} (h : decimal? cs = some v) :
  v.HasDistinctKeys
  := by
  rw [decimal?] at h
  dsimp only at h
  split_ifs at h
  obtain ⟨_, -, h⟩ := Option.bind_eq_some_iff.mp h
  obtain ⟨_, -, h⟩ := Option.bind_eq_some_iff.mp h
  obtain ⟨_, -, h⟩ := Option.bind_eq_some_iff.mp h
  rw [double?] at h
  split_ifs at h
  · rw [← Option.some.inj h]
    rfl
  · rw [← Option.some.inj h]
    rfl

theorem hasDistinctKeys_of_special? {cs : List Char} {v : Json} (h : special? cs = some v) :
  v.HasDistinctKeys
  := by
  rw [special?] at h
  dsimp only at h
  split_ifs at h
  all_goals
    rw [← Option.some.inj h]
    rfl

theorem hasDistinctKeys_of_word? {cs : List Char} {v : Json} (h : word? cs = some v) :
  v.HasDistinctKeys
  := by
  rw [word?] at h
  split_ifs at h
  · rw [← Option.some.inj h]
    rfl
  · rw [← Option.some.inj h]
    rfl
  · obtain h | ⟨-, h⟩ := Option.or_eq_some_iff.mp h
    · apply hasDistinctKeys_of_integer? h
    · obtain h | ⟨-, h⟩ := Option.or_eq_some_iff.mp h
      · apply hasDistinctKeys_of_decimal? h
      · apply hasDistinctKeys_of_special? h

/-- A value that has no parts has no keys, dates and times apart. -/
theorem gives_scalar :
  Gives scalar Json.HasDistinctKeys
  := by
  intro cs v rest h
  rw [scalar] at h
  split at h
  · rw [← (Prod.mk.inj (Option.some.inj h)).1]
    apply hasDistinctKeys_moment
  · obtain ⟨w, hw, heq⟩ := Option.map_eq_some_iff.mp h
    rw [← (Prod.mk.inj heq).1]
    apply hasDistinctKeys_of_word? hw

/-- The items of an array are values. -/
theorem gives_items {value : Reader Json} (h : Gives value Json.HasDistinctKeys) (fuel : Nat) :
  Gives (items value fuel) fun vs => ∀ v ∈ vs, v.HasDistinctKeys
  := by
  intro cs vs rest hread
  induction fuel generalizing cs vs with
  | zero => contradiction
  | succ fuel ih =>
    rw [items] at hread
    split at hread
    · rw [← (Prod.mk.inj (Option.some.inj hread)).1]
      nofun
    · obtain ⟨⟨v, rest'⟩, hv, hread⟩ := Option.bind_eq_some_iff.mp hread
      dsimp only at hread
      split at hread
      · obtain ⟨⟨vs', rest''⟩, hvs, hread⟩ := Option.bind_eq_some_iff.mp hread
        have hvs : items value fuel _ = some (vs', rest'') := hvs
        obtain ⟨rfl, rfl⟩ := Prod.mk.inj (Option.some.inj hread)
        rw [List.forall_mem_cons]
        exact ⟨h hv, ih hvs⟩
      · rw [← (Prod.mk.inj (Option.some.inj hread)).1, List.forall_mem_singleton]
        apply h hv
      · contradiction

/-- The entries of an inline table are set one after the other. -/
theorem gives_pairs {value : Reader Json} (h : Gives value Json.HasDistinctKeys) (fuel : Nat)
    {entries : Entries} (hentries : DistinctKeys entries) :
  Gives (pairs value fuel entries) DistinctKeys
  := by
  intro cs entries' rest hread
  induction fuel generalizing cs entries with
  | zero => contradiction
  | succ fuel ih =>
    rw [pairs] at hread
    obtain ⟨⟨⟨path, last⟩, rest'⟩, -, hread⟩ := Option.bind_eq_some_iff.mp hread
    obtain ⟨⟨v, rest'⟩, hv, hread⟩ := Option.bind_eq_some_iff.mp hread
    obtain ⟨more, hset, hread⟩ := Option.bind_eq_some_iff.mp hread
    have hmore := hentries.setKey (h hv) hset
    split at hread
    · apply ih hmore hread
    · rw [← (Prod.mk.inj (Option.some.inj hread)).1]
      apply hmore
    · contradiction

/-- An inline table begins without entries. -/
theorem gives_inlineTable {value : Reader Json} (h : Gives value Json.HasDistinctKeys) :
  Gives (inlineTable value) DistinctKeys
  := by
  intro cs entries rest hread
  rw [inlineTable] at hread
  split at hread
  · rw [← (Prod.mk.inj (Option.some.inj hread)).1]
    apply distinctKeys_nil
  · apply gives_pairs h _ distinctKeys_nil hread

/-- Whatever value is read, at any depth. -/
theorem gives_value (depth : Nat) :
  Gives (value depth) Json.HasDistinctKeys
  := by
  have hstep (depth : Nat) (hinner : ∀ d, depth = d + 1 → Gives (value d) Json.HasDistinctKeys) :
      Gives (value depth) Json.HasDistinctKeys := by
    intro cs v rest hread
    cases cs with
    | nil =>
      rw [value.eq_def] at hread
      contradiction
    | cons c cs =>
      rw [value.eq_def] at hread
      dsimp only at hread
      split_ifs at hread
      · obtain ⟨⟨s, rest'⟩, -, heq⟩ := Option.map_eq_some_iff.mp hread
        rw [← (Prod.mk.inj heq).1]
        rfl
      · cases depth with
        | zero => contradiction
        | succ d =>
          obtain ⟨⟨vs, rest'⟩, hvs, heq⟩ := Option.map_eq_some_iff.mp hread
          rw [← (Prod.mk.inj heq).1, Json.hasDistinctKeys_array_iff]
          apply gives_items (hinner d rfl) _ hvs
      · cases depth with
        | zero => contradiction
        | succ d =>
          obtain ⟨⟨entries, rest'⟩, hentries, heq⟩ := Option.map_eq_some_iff.mp hread
          rw [← (Prod.mk.inj heq).1]
          apply gives_inlineTable (hinner d rfl) hentries
      · apply gives_scalar hread
  induction depth with
  | zero =>
    apply hstep
    nofun
  | succ depth ih =>
    apply hstep
    rintro d ⟨⟩
    exact ih

/-! ### Documents -/

/-- A header opens a table or adds one. -/
theorem distinctKeys_of_header {d d' : Draft} (h : DistinctKeys d.entries) {many : Bool}
    {cs rest : List Char} (hread : header d many cs = some (d', rest)) :
  DistinctKeys d'.entries
  := by
  rw [header] at hread
  obtain ⟨⟨parts, rest'⟩, -, hread⟩ := Option.bind_eq_some_iff.mp hread
  obtain ⟨last, -, hread⟩ := Option.bind_eq_some_iff.mp hread
  obtain ⟨_, -, hread⟩ := Option.bind_eq_some_iff.mp hread
  cases many with
  | true =>
    obtain ⟨_, -, hread⟩ := Option.bind_eq_some_iff.mp hread
    obtain ⟨entries, hentries, hread⟩ := Option.bind_eq_some_iff.mp hread
    rw [← (Prod.mk.inj (Option.some.inj hread)).1]
    apply h.addTable hentries
  | false =>
    obtain ⟨entries, hentries, hread⟩ := Option.bind_eq_some_iff.mp hread
    rw [← (Prod.mk.inj (Option.some.inj hread)).1]
    apply h.openTable hentries

/-- A line is a header, or it sets a key. -/
theorem distinctKeys_of_statement {d d' : Draft} (h : DistinctKeys d.entries) {cs rest : List Char}
    (hread : statement d cs = some (d', rest)) :
  DistinctKeys d'.entries
  := by
  rw [statement.eq_def] at hread
  split at hread
  · apply distinctKeys_of_header h hread
  · apply distinctKeys_of_header h hread
  · obtain ⟨⟨⟨path, last⟩, rest'⟩, -, hread⟩ := Option.bind_eq_some_iff.mp hread
    obtain ⟨⟨v, rest'⟩, hv, hread⟩ := Option.bind_eq_some_iff.mp hread
    obtain ⟨entries, hset, hread⟩ := Option.bind_eq_some_iff.mp hread
    rw [← (Prod.mk.inj (Option.some.inj hread)).1]
    apply h.setBelow (gives_value maxDepth hv) hset

/-- A document is read line by line. -/
theorem distinctKeys_of_document {fuel : Nat} {d d' : Draft} (h : DistinctKeys d.entries)
    {cs : List Char} (hread : document fuel d cs = some d') :
  DistinctKeys d'.entries
  := by
  induction fuel generalizing d cs with
  | zero => contradiction
  | succ fuel ih =>
    rw [document] at hread
    split at hread
    · rw [← Option.some.inj hread]
      apply h
    · obtain ⟨⟨next, rest⟩, hnext, hread⟩ := Option.bind_eq_some_iff.mp hread
      obtain ⟨rest', -, hread⟩ := Option.bind_eq_some_iff.mp hread
      apply ih (distinctKeys_of_statement h hnext) hread

/-- A document that is read is an object, and no object in it repeats a key. -/
theorem hasDistinctKeys_of_parse {text : String} {v : Json} (h : parse text = some v) :
  (∃ fields, v = .object fields) ∧ v.HasDistinctKeys
  := by
  obtain ⟨d, hd, rfl⟩ := Option.map_eq_some_iff.mp h
  exact ⟨⟨_, rfl⟩, distinctKeys_of_document distinctKeys_nil hd⟩

end InteractionRouting.Toml
