/-!
# Tables

A table holds at most one value per key and lists its entries in the order in which their
keys came in.
-/

namespace InteractionRouting

/-- A finite map from strings, as a list of entries with distinct keys. -/
structure Table (α : Type) where
  entries : List (String × α)
  nodup : (entries.map Prod.fst).Nodup

namespace Table

variable {α β : Type}

/-- The table without entries. -/
def empty : Table α := ⟨[], by simp⟩

instance : Inhabited (Table α) := ⟨empty⟩

/-- The keys, in order. -/
def keys (t : Table α) : List String := t.entries.map Prod.fst

/-- The value under a key. -/
def get? (t : Table α) (key : String) : Option α := t.entries.lookup key

/-- Whether a key has a value. -/
def contains (t : Table α) (key : String) : Bool := (t.get? key).isSome

def size (t : Table α) : Nat := t.entries.length

def isEmpty (t : Table α) : Bool := t.entries.isEmpty

/-- Sets the value under a key: a new key goes to the end, a known key keeps its place. -/
def insertEntry (key : String) (value : α) : List (String × α) → List (String × α)
  | [] => [(key, value)]
  | (k, v) :: rest => if k = key then (k, value) :: rest else (k, v) :: insertEntry key value rest

/-- The keys are those from before and the one that was set. -/
theorem mem_keys_insertEntry {key k : String} {value : α} {l : List (String × α)} :
  k ∈ (insertEntry key value l).map Prod.fst ↔ k = key ∨ k ∈ l.map Prod.fst
  := by
  induction l with
  | nil => simp [insertEntry]
  | cons e rest ih =>
    obtain ⟨k', v⟩ := e
    by_cases h : k' = key
    · simp [insertEntry, h]
    · simp only [insertEntry, if_neg h, List.map_cons, List.mem_cons, ih]
      grind

/-- No key is repeated when one is set. -/
theorem nodup_insertEntry {key : String} {value : α} {l : List (String × α)}
    (h : (l.map Prod.fst).Nodup) :
  ((insertEntry key value l).map Prod.fst).Nodup
  := by
  induction l with
  | nil => simp [insertEntry]
  | cons e rest ih =>
    obtain ⟨k', v⟩ := e
    by_cases hk : k' = key
    · simpa [insertEntry, hk] using h
    · simp only [List.map_cons, List.nodup_cons] at h
      simp only [insertEntry, if_neg hk, List.map_cons, List.nodup_cons, mem_keys_insertEntry]
      grind

/-- Sets the value under a key. -/
def insert (t : Table α) (key : String) (value : α) : Table α :=
  ⟨insertEntry key value t.entries, nodup_insertEntry t.nodup⟩

/-- The table of a list of entries; of two with the same key the later wins. -/
def ofList (l : List (String × α)) : Table α :=
  l.foldl (fun t e => t.insert e.1 e.2) empty

/-- A look-up tries the first entry and then the others. -/
theorem lookup_cons_eq (key k : String) (value : α) (l : List (String × α)) :
  ((key, value) :: l).lookup k = if k = key then some value else l.lookup k
  := by
  by_cases hk : k = key
  · rw [if_pos hk, hk, List.lookup_cons_self]
  · rw [if_neg hk, List.lookup_cons, beq_eq_false_iff_ne.mpr hk]

/-- The entry that was set is found under its key, and all others as before. -/
theorem lookup_insertEntry (key k : String) (value : α) (l : List (String × α)) :
  (insertEntry key value l).lookup k = if k = key then some value else l.lookup k
  := by
  induction l with
  | nil => apply lookup_cons_eq
  | cons e rest ih =>
    obtain ⟨k', v⟩ := e
    by_cases hkey : k' = key
    · rw [insertEntry, if_pos hkey, lookup_cons_eq, lookup_cons_eq, hkey]
      split <;> rfl
    · rw [insertEntry, if_neg hkey, lookup_cons_eq, lookup_cons_eq, ih]
      by_cases hk : k = k'
      · rw [if_pos hk, if_pos hk, if_neg (hk ▸ hkey)]
      · rw [if_neg hk, if_neg hk]

/-- Where keys are distinct, a value is found just where it stands under its key. -/
theorem lookup_eq_some_iff_mem {l : List (String × α)} (h : (l.map Prod.fst).Nodup) {key : String}
    {value : α} :
  l.lookup key = some value ↔ (key, value) ∈ l
  := by
  induction l with
  | nil => simp
  | cons e rest ih =>
    obtain ⟨k, v⟩ := e
    rw [List.map_cons, List.nodup_cons] at h
    rw [lookup_cons_eq, List.mem_cons, Prod.mk.injEq]
    by_cases hk : key = k
    · subst hk
      have hrest : (key, value) ∉ rest := fun hmem => h.1 (List.mem_map.mpr ⟨_, hmem, rfl⟩)
      simp [hrest, eq_comm]
    · rw [if_neg hk, ih h.2]
      simp [hk]

/-- A value is found exactly if its entry is there. -/
theorem get?_eq_some_iff {t : Table α} {key : String} {value : α} :
  t.get? key = some value ↔ (key, value) ∈ t.entries
  := lookup_eq_some_iff_mem t.nodup

/-- After a value was set its key has this value, and all others have what they had. -/
theorem get?_insert (t : Table α) (key k : String) (value : α) :
  (t.insert key value).get? k = if k = key then some value else t.get? k
  := by
  apply lookup_insertEntry

/-- A new key goes to the end. -/
theorem insertEntry_of_notMem {key : String} {value : α} {l : List (String × α)}
    (h : key ∉ l.map Prod.fst) :
  insertEntry key value l = l ++ [(key, value)]
  := by
  induction l with
  | nil => rfl
  | cons e rest ih =>
    obtain ⟨k, v⟩ := e
    simp only [List.map_cons, List.mem_cons, not_or] at h
    rw [insertEntry, if_neg (Ne.symm h.1), ih h.2]
    rfl

/-- Entries with new and distinct keys are added at the end, in order. -/
theorem entries_foldl_insert {l : List (String × α)} (t : Table α)
    (h : ((t.entries ++ l).map Prod.fst).Nodup) :
  (l.foldl (fun t e => t.insert e.1 e.2) t).entries = t.entries ++ l
  := by
  induction l generalizing t with
  | nil => simp
  | cons e rest ih =>
    have hnew : e.1 ∉ t.entries.map Prod.fst := by
      rw [List.map_append, List.nodup_append] at h
      intro hmem
      exact h.2.2 e.1 hmem e.1 (by simp) rfl
    have hins : (t.insert e.1 e.2).entries = t.entries ++ [e] := insertEntry_of_notMem hnew
    have hrest : (((t.insert e.1 e.2).entries ++ rest).map Prod.fst).Nodup := by
      rw [hins, List.append_assoc]
      exact h
    rw [List.foldl_cons, ih _ hrest, hins, List.append_assoc]
    rfl

/-- A list of entries with distinct keys is the list of entries of its table. -/
theorem entries_ofList {l : List (String × α)} (h : (l.map Prod.fst).Nodup) :
  (ofList l).entries = l
  := by
  apply entries_foldl_insert empty
  exact h

/-- Tables of the same entries are the same. -/
theorem eq_of_entries_eq {t t' : Table α} (h : t.entries = t'.entries) :
  t = t'
  := by
  cases t
  cases t'
  cases h
  rfl

theorem mem_of_mem_insertEntry {key : String} {value : α} {l : List (String × α)}
    {e : String × α} (h : e ∈ insertEntry key value l) :
  e = (key, value) ∨ e ∈ l
  := by
  induction l with
  | nil => exact .inl (List.mem_singleton.mp h)
  | cons e' rest ih =>
    obtain ⟨k, v⟩ := e'
    rw [insertEntry] at h
    split at h
    · next hkey =>
      subst hkey
      obtain h | h := List.mem_cons.mp h
      · exact .inl h
      · exact .inr (List.mem_cons_of_mem _ h)
    · obtain h | h := List.mem_cons.mp h
      · exact .inr (h ▸ List.mem_cons_self)
      · exact (ih h).imp_right (List.mem_cons_of_mem _)

/-- The table of a list holds nothing but entries of the list. -/
theorem mem_of_mem_entries_ofList {l : List (String × α)} {e : String × α}
    (h : e ∈ (ofList l).entries) :
  e ∈ l
  := by
  have hfoldl (l : List (String × α)) (t : Table α)
      (h : e ∈ (l.foldl (fun t e => t.insert e.1 e.2) t).entries) : e ∈ t.entries ∨ e ∈ l := by
    induction l generalizing t with
    | nil => exact .inl h
    | cons first rest ih =>
      obtain h | h := ih _ h
      · obtain rfl | h := mem_of_mem_insertEntry h
        · exact .inr List.mem_cons_self
        · exact .inl h
      · exact .inr (List.mem_cons_of_mem _ h)
  obtain h | h := hfoldl l empty h
  · contradiction
  · exact h

end Table

end InteractionRouting
