import InteractionRouting.Group
import Mathlib.Data.List.Nodup
import Mathlib.Tactic.Common

/-!
# Groups that are shared

Groups are made and asked for by callers that have handles on them.  Many handles may stand for the
same group, and each call goes on from what all calls before it did, whoever made them.  Whatever
the calls are, a group is in none or in one at the top.  That one has recorded it, after those that
were made in it before, under a name that none of these has.
-/

namespace InteractionRouting

/-! ### Lists -/

section

variable {α β : Type} {l : List α} {i : Nat} {a b : α} {p : α → Bool} {f : α → β}

/-- An item can be replaced by one that is kept like it and shows the same. -/
theorem map_filter_set (hb : l[i]? = some b) (hp : p a = p b) (hf : f a = f b) :
  ((l.set i a).filter p).map f = (l.filter p).map f
  := by
  induction l generalizing i with
  | nil => rfl
  | cons x rest ih =>
    cases i with
    | zero =>
      obtain rfl : x = b := Option.some.inj hb
      rw [List.set_cons_zero, List.filter_cons, List.filter_cons, hp]
      split_ifs with hx
      · rw [List.map_cons, List.map_cons, hf]
      · rfl
    | succ i =>
      rw [List.set_cons_succ, List.filter_cons, List.filter_cons]
      split_ifs with hx
      · rw [List.map_cons, List.map_cons, ih hb]
      · exact ih hb

end

namespace Groups

/-! ### Making a group -/

/-- The group as it is recorded in the one that it is in. -/
def Cell.record (c : Cell) : Manifest.SubGroup := ⟨c.group.name, c.group.description⟩

/-- A group after one more was recorded in it. -/
def Cell.recording (c : Cell) (x : Manifest.SubGroup) : Cell :=
  { c with subGroups := c.subGroups ++ [x] }

/-- A group made inside another. -/
def Cell.madeIn (outer : Cell) (parent : Nat) (x : Manifest.SubGroup) : Cell :=
  ⟨.nested outer.group.name outer.group.description x.name x.description, some parent, []⟩

namespace Store

variable {s : Store} {parent : Nat} {c : Cell} {name : String}

theorem lt_length_of_cell?_eq_some {g : Nat} (hc : s.cell? g = some c) :
  g < s.cells.length
  := List.getElem?_eq_some_iff.mp hc |>.1

/-- A cell that is added comes into the next place, and all others stay. -/
theorem cell?_append (cells : List Cell) (made : Cell) (g : Nat) :
  (Store.mk (cells ++ [made])).cell? g
    = if g = cells.length then some made else (Store.mk cells).cell? g
  := by
  rw [cell?, cell?, List.getElem?_append]
  split_ifs with hlt heq heq
  · omega
  · rfl
  · simp [heq]
  · rw [List.getElem?_eq_none (by simp; omega), List.getElem?_eq_none (by simpa using hlt)]

/-- A group at the top is made in the next place. -/
theorem cell?_create (s : Store) (name description : String) (g : Nat) :
  (s.create name description).1.cell? g
    = if g = s.cells.length then some ⟨.top name description, none, []⟩ else s.cell? g
  := cell?_append _ _ _

/-- No group is made inside one that is not at the top. -/
theorem createIn_of_nested (hc : s.cell? parent = some c) (hnested : c.group.parent? ≠ none)
    (name description : String) :
  s.createIn parent name description = .error (.tooDeep name c.group.name)
  := by
  obtain ⟨group, outer, known⟩ := c
  cases group with
  | top n d => exact absurd rfl hnested
  | nested outerName outerDescription n d =>
    rw [createIn, hc]
    rfl

/-- No group is made inside one that has recorded a group of its name. -/
theorem createIn_of_mem (hc : s.cell? parent = some c) (htop : c.group.parent? = none)
    (hmem : name ∈ c.subGroups.map (·.name)) (description : String) :
  s.createIn parent name description = .error (.duplicate name c.group.name)
  := by
  obtain ⟨group, outer, known⟩ := c
  cases group with
  | nested outerName outerDescription n d => contradiction
  | top n d =>
    have hany : known.any (·.name == name) = true := by simpa using hmem
    rw [createIn, hc]
    dsimp only
    rw [if_pos hany]
    rfl

/-- A group of a new name is made inside one at the top, which records it. -/
theorem createIn_of_notMem (hc : s.cell? parent = some c) (htop : c.group.parent? = none)
    (hnew : name ∉ c.subGroups.map (·.name)) (description : String) :
  s.createIn parent name description
    = .ok (⟨s.cells.set parent (c.recording ⟨name, description⟩)
        ++ [c.madeIn parent ⟨name, description⟩]⟩, s.cells.length)
  := by
  obtain ⟨group, outer, known⟩ := c
  cases group with
  | nested outerName outerDescription n d => contradiction
  | top n d =>
    have hany : ¬ known.any (·.name == name) = true := by simpa using hnew
    rw [createIn, hc]
    dsimp only
    rw [if_neg hany]
    rfl

/-- If a group was made inside another, that one was at the top and had no group of this name
recorded. -/
theorem exists_of_createIn_eq_ok {description : String} {made : Store × Nat}
    (h : s.createIn parent name description = .ok made) :
  ∃ c, s.cell? parent = some c ∧ c.group.parent? = none ∧ name ∉ c.subGroups.map (·.name)
    ∧ made = (⟨s.cells.set parent (c.recording ⟨name, description⟩)
        ++ [c.madeIn parent ⟨name, description⟩]⟩, s.cells.length)
  := by
  cases hc : s.cell? parent with
  | none =>
    rw [createIn, hc] at h
    contradiction
  | some c =>
    by_cases htop : c.group.parent? = none
    · by_cases hmem : name ∈ c.subGroups.map (·.name)
      · rw [createIn_of_mem hc htop hmem] at h
        contradiction
      · rw [createIn_of_notMem hc htop hmem, Except.ok.injEq] at h
        exact ⟨c, rfl, htop, hmem, h.symm⟩
    · rw [createIn_of_nested hc htop] at h
      contradiction

/-- The cells after a group was made inside another. -/
theorem cell?_recording (hc : s.cell? parent = some c) (x : Manifest.SubGroup) (g : Nat) :
  (Store.mk (s.cells.set parent (c.recording x) ++ [c.madeIn parent x])).cell? g
    = if g = s.cells.length then some (c.madeIn parent x)
      else if g = parent then some (c.recording x) else s.cell? g
  := by
  have hparent := lt_length_of_cell?_eq_some hc
  rw [cell?_append, List.length_set]
  congr 1
  rw [cell?, List.getElem?_set]
  simp only [hparent, if_true, eq_comm (a := parent)]
  rfl

/-! ### What is in a group -/

/-- The groups that are in a group, as they are recorded, in the order in which they were made. -/
def inside (s : Store) (g : Nat) : List Manifest.SubGroup :=
  (s.cells.filter (·.parent = some g)).map Cell.record

/-- A cell that is added is inside the group that it names, after those before it. -/
theorem inside_append (cells : List Cell) (made : Cell) (g : Nat) :
  (Store.mk (cells ++ [made])).inside g
    = (Store.mk cells).inside g ++ if made.parent = some g then [made.record] else []
  := by
  rw [inside, inside, List.filter_append, List.map_append]
  congr 1
  split_ifs with hg
  · simp [hg]
  · simp [hg]

/-- Recording a group in another does not move any group. -/
theorem inside_set (hc : s.cell? parent = some c) (x : Manifest.SubGroup) (g : Nat) :
  (Store.mk (s.cells.set parent (c.recording x))).inside g = s.inside g
  := map_filter_set hc rfl rfl

/-- A new group at the top is inside no other. -/
theorem inside_create (s : Store) (name description : String) (g : Nat) :
  (s.create name description).1.inside g = s.inside g
  := by
  have hmade : (Cell.mk (.top name description) none []).parent ≠ some g := nofun
  rw [create, inside_append, if_neg hmade, List.append_nil]

/-- A group that is made inside another comes there after those before it. -/
theorem inside_recording (hc : s.cell? parent = some c) (x : Manifest.SubGroup) (g : Nat) :
  (Store.mk (s.cells.set parent (c.recording x) ++ [c.madeIn parent x])).inside g
    = s.inside g ++ if parent = g then [x] else []
  := by
  rw [inside_append, inside_set hc]
  simp only [Cell.madeIn, Cell.record, Option.some.injEq, Group.name, Group.description]

/-! ### What holds of a store -/

/-- The cell in a place is in order: the group is at the top or in one at the top, and it has
recorded the groups in it under distinct names. -/
structure Fits (s : Store) (g : Nat) (c : Cell) : Prop where
  /-- A group that is in no other is at the top. -/
  top : c.parent = none → c.group.parent? = none
  /-- A group that is in another is in one at the top. -/
  nested : ∀ {place}, c.parent = some place →
    ∃ outer, s.cell? place = some outer ∧ outer.parent = none
      ∧ c.group.parent? = some outer.group
  recorded : c.subGroups = s.inside g
  distinct : (c.subGroups.map (·.name)).Nodup

/-- All cells are in order. -/
structure Sound (s : Store) : Prop where
  fits : ∀ {g c}, s.cell? g = some c → s.Fits g c

/-- A group is at the top exactly if it is kept in no other. -/
theorem Fits.parent?_eq_none_iff {g : Nat} (h : s.Fits g c) :
  c.group.parent? = none ↔ c.parent = none
  := by
  refine ⟨fun htop => ?_, h.top⟩
  by_contra hnone
  obtain ⟨place, hplace⟩ := Option.ne_none_iff_exists'.mp hnone
  obtain ⟨outer, -, -, houter⟩ := h.nested hplace
  rw [htop] at houter
  contradiction

/-- A cell stays in order if the groups stay what they are and where they are, and nothing comes
into its group. -/
theorem Fits.of_keeps {t : Store} {g : Nat} (h : s.Fits g c)
    (hkeep : ∀ {place outer}, s.cell? place = some outer →
      ∃ kept, t.cell? place = some kept ∧ kept.parent = outer.parent ∧ kept.group = outer.group)
    (hinside : t.inside g = s.inside g) :
  t.Fits g c
  where
  top := h.top
  nested := by
    intro place hplace
    obtain ⟨outer, houter, htop, hgroup⟩ := h.nested hplace
    obtain ⟨kept, hkept, hkeptParent, hkeptGroup⟩ := hkeep houter
    exact ⟨kept, hkept, hkeptParent.trans htop, hkeptGroup ▸ hgroup⟩
  recorded := by rw [hinside, h.recorded]
  distinct := h.distinct

/-- In the place of the next group there is nothing yet. -/
theorem Sound.inside_length (h : s.Sound) :
  s.inside s.cells.length = []
  := by
  rw [inside, List.map_eq_nil_iff, List.filter_eq_nil_iff]
  intro c hc hparent
  obtain ⟨place, hplace⟩ := List.mem_iff_getElem?.mp hc
  obtain ⟨outer, houter, -⟩ := (h.fits hplace).nested (of_decide_eq_true hparent)
  exact Nat.lt_irrefl _ (lt_length_of_cell?_eq_some houter)

/-- Without any groups all is in order. -/
theorem sound_empty :
  empty.Sound
  := ⟨nofun⟩

/-- A new group is in no other, and no group is in it. -/
theorem Sound.create (h : s.Sound) (name description : String) :
  (s.create name description).1.Sound
  := by
  constructor
  intro g c hc
  rw [cell?_create] at hc
  split_ifs at hc with hg
  · cases hc
    constructor
    case top => exact fun _ => rfl
    case nested => nofun
    case recorded => rw [inside_create, hg, h.inside_length]
    case distinct => exact List.nodup_nil
  · apply (h.fits hc).of_keeps
    · intro place outer houter
      rw [cell?_create, if_neg (Nat.ne_of_lt (lt_length_of_cell?_eq_some houter))]
      exact ⟨outer, houter, rfl, rfl⟩
    · apply inside_create

/-- A group that is made inside one at the top is in that one. -/
theorem parent?_madeIn (htop : c.group.parent? = none) (x : Manifest.SubGroup) :
  (c.madeIn parent x).group.parent? = some c.group
  := by
  obtain ⟨group, outer, known⟩ := c
  cases group with
  | top n d => rfl
  | nested outerName outerDescription n d => contradiction

/-- Recording one more group changes nothing else of a group. -/
theorem exists_cell?_recording {outer : Cell} (houter : s.cell? parent = some outer)
    (x : Manifest.SubGroup) {place : Nat} (hc : s.cell? place = some c) :
  ∃ kept,
    (Store.mk (s.cells.set parent (outer.recording x) ++ [outer.madeIn parent x])).cell? place
        = some kept
      ∧ kept.parent = c.parent ∧ kept.group = c.group
  := by
  rw [cell?_recording houter, if_neg (Nat.ne_of_lt (lt_length_of_cell?_eq_some hc))]
  split_ifs with hplace
  · rw [hplace, houter, Option.some.injEq] at hc
    rw [← hc]
    exact ⟨_, rfl, rfl, rfl⟩
  · exact ⟨c, hc, rfl, rfl⟩

/-- A group that is made inside another is in one at the top, which has recorded it last. -/
theorem Sound.createIn (h : s.Sound) {description : String} {made : Store × Nat}
    (hmade : s.createIn parent name description = .ok made) :
  made.1.Sound
  := by
  obtain ⟨outer, houter, htop, hnew, rfl⟩ := exists_of_createIn_eq_ok hmade
  have hne : parent ≠ s.cells.length := Nat.ne_of_lt (lt_length_of_cell?_eq_some houter)
  have hparent : outer.parent = none := (h.fits houter).parent?_eq_none_iff.mp htop
  constructor
  intro g c hc
  rw [cell?_recording houter] at hc
  split_ifs at hc with hg hg'
  · -- the new group
    cases hc
    constructor
    case top => nofun
    case nested =>
      intro place hplace
      obtain rfl : parent = place := Option.some.inj hplace
      obtain ⟨kept, hkept, hkeptParent, hkeptGroup⟩ :=
        exists_cell?_recording houter ⟨name, description⟩ houter
      refine ⟨kept, hkept, hkeptParent.trans hparent, ?_⟩
      rw [parent?_madeIn htop, hkeptGroup]
    case recorded =>
      rw [inside_recording houter, hg, h.inside_length, if_neg hne]
      rfl
    case distinct => exact List.nodup_nil
  · -- the group that it is in
    cases hc
    constructor
    case top => exact fun _ => htop
    case nested =>
      intro place hplace
      rw [show outer.parent = some place from hplace] at hparent
      contradiction
    case recorded =>
      rw [inside_recording houter, hg', if_pos rfl, ← (h.fits houter).recorded]
      rfl
    case distinct =>
      rw [Cell.recording, List.map_append, List.nodup_append']
      refine ⟨(h.fits houter).distinct, List.nodup_singleton _, ?_⟩
      rw [List.map_singleton, List.disjoint_singleton]
      exact hnew
  · -- any other group
    apply (h.fits hc).of_keeps
    · exact exists_cell?_recording houter _
    · rw [inside_recording houter, if_neg (Ne.symm hg'), List.append_nil]

end Store

/-! ### Callers -/

/-- What a caller does with a handle.  Handles are numbered in the order in which they are
obtained. -/
inductive Call where
  | create (name description : String)
  | createIn (handle : Nat) (name description : String)
  /-- A second handle on the same group. -/
  | copy (handle : Nat)
  /-- A handle on the group that a group is in, if it is in one. -/
  | parent (handle : Nat)

/-- The groups, and the handles that callers have. -/
structure Session where
  store : Store
  /-- For each handle the place of its group. -/
  handles : List Nat

namespace Session

/-- No groups and no handles. -/
def empty : Session := ⟨.empty, []⟩

/-- The place of the group of a handle. -/
def place? (s : Session) (handle : Nat) : Option Nat := s.handles[handle]?

/-- What is kept of the group of a handle. -/
def cell? (s : Session) (handle : Nat) : Option Cell := (s.place? handle).bind s.store.cell?

/-- Callers get handles. -/
def obtain (s : Session) (places : List Nat) : Session :=
  { s with handles := s.handles ++ places }

/-- Makes a call: what there is after it, or why it fails. -/
def perform (s : Session) : Call → Except GroupError Session
  | .create name description =>
    let (store, place) := s.store.create name description
    .ok ({ s with store := store }.obtain [place])
  | .createIn handle name description =>
    match s.place? handle with
    | none => .error (.noParent name)
    | some parent =>
      (s.store.createIn parent name description).map fun (store, place) =>
        { s with store := store }.obtain [place]
  | .copy handle => .ok (s.obtain (s.place? handle).toList)
  | .parent handle => .ok (s.obtain ((s.cell? handle).bind Cell.parent).toList)

/-- What there is after a call, whether it fails or not. -/
def step (s : Session) (call : Call) : Session := (s.perform call).toOption.getD s

/-- What there is after calls, whoever made them, in the order in which they were made. -/
def run (s : Session) (calls : List Call) : Session := calls.foldl step s

/-- The group that a call makes inside another, and the place of that one. -/
def birth? (s : Session) : Call → Option (Nat × Manifest.SubGroup)
  | .createIn handle name description => do
    let parent ← s.place? handle
    let _ ← (s.store.createIn parent name description).toOption
    return (parent, ⟨name, description⟩)
  | .create _ _ | .copy _ | .parent _ => none

/-- The groups that calls make inside others, in the order in which they are made. -/
def births (s : Session) : List Call → List (Nat × Manifest.SubGroup)
  | [] => []
  | call :: rest => (s.birth? call).toList ++ (s.step call).births rest

/-- Those that were made in the group in a place. -/
def under (g : Nat) (births : List (Nat × Manifest.SubGroup)) : List Manifest.SubGroup :=
  (births.filter (·.1 = g)).map Prod.snd

/-! ### One call -/

variable {s : Session}

/-- A call for a group inside another makes it there, or it fails and nothing changes. -/
theorem step_createIn (s : Session) (handle : Nat) (name description : String) :
  (s.step (.createIn handle name description) = s
      ∧ s.birth? (.createIn handle name description) = none)
    ∨ ∃ parent made, s.place? handle = some parent
        ∧ s.store.createIn parent name description = .ok made
        ∧ s.step (.createIn handle name description) = ⟨made.1, s.handles ++ [made.2]⟩
        ∧ s.birth? (.createIn handle name description) = some (parent, ⟨name, description⟩)
  := by
  rw [step, perform, birth?]
  cases s.place? handle with
  | none => exact .inl ⟨rfl, rfl⟩
  | some parent =>
    dsimp only
    cases hmade : s.store.createIn parent name description with
    | error error =>
      left
      simp [hmade, Except.map, Except.toOption]
    | ok made =>
      right
      refine ⟨parent, made, rfl, hmade, rfl, ?_⟩
      simp [hmade, Except.toOption]

/-- The store is sound, and every handle stands for a group. -/
structure Sound (s : Session) : Prop where
  store : s.store.Sound
  handles : ∀ place ∈ s.handles, place < s.store.cells.length

/-- At the start there are neither groups nor handles. -/
theorem sound_empty :
  empty.Sound
  := ⟨Store.sound_empty, nofun⟩

/-- Other handles on groups that there are make no difference. -/
theorem Sound.obtain (h : s.Sound) {places : List Nat}
    (hplaces : ∀ place ∈ places, place < s.store.cells.length) :
  (s.obtain places).Sound
  where
  store := h.store
  handles := by
    intro place hplace
    obtain hplace | hplace := List.mem_append.mp hplace
    · exact h.handles place hplace
    · exact hplaces place hplace

/-- The last group that was made gets a handle. -/
theorem Sound.append (h : s.Sound) {store : Store} (hstore : store.Sound)
    (hlength : store.cells.length = s.store.cells.length + 1) :
  (Session.mk store (s.handles ++ [s.store.cells.length])).Sound
  where
  store := hstore
  handles := by
    intro place hplace
    rw [hlength]
    obtain hplace | hplace := List.mem_append.mp hplace
    · exact Nat.lt_succ_of_lt (h.handles place hplace)
    · rw [List.mem_singleton.mp hplace]
      exact Nat.lt_succ_self _

/-- Whatever is called, all stays in order. -/
theorem Sound.step (h : s.Sound) (call : Call) :
  (s.step call).Sound
  := by
  cases call with
  | create name description =>
    apply h.append (h.store.create name description)
    rw [Store.create, List.length_append]
    rfl
  | createIn handle name description =>
    obtain ⟨hstep, -⟩ | ⟨parent, made, -, hmade, hstep, -⟩ :=
      s.step_createIn handle name description
    · rw [hstep]
      exact h
    · have hsound := h.store.createIn hmade
      obtain ⟨outer, -, -, -, rfl⟩ := Store.exists_of_createIn_eq_ok hmade
      rw [hstep]
      apply h.append hsound
      rw [List.length_append, List.length_set]
      rfl
  | copy handle =>
    apply h.obtain
    intro place hplace
    rw [Option.mem_toList] at hplace
    exact h.handles place (List.mem_of_getElem? hplace)
  | parent handle =>
    apply h.obtain
    intro place hplace
    rw [Option.mem_toList] at hplace
    obtain ⟨c, hc, hparent⟩ := Option.bind_eq_some_iff.mp hplace
    obtain ⟨g, -, hg⟩ := Option.bind_eq_some_iff.mp hc
    obtain ⟨outer, houter, -⟩ := (h.store.fits hg).nested hparent
    exact Store.lt_length_of_cell?_eq_some houter

/-- What was made in a group comes one part after the other. -/
theorem under_append (g : Nat) (l l' : List (Nat × Manifest.SubGroup)) :
  under g (l ++ l') = under g l ++ under g l'
  := by
  rw [under, List.filter_append, List.map_append]
  rfl

/-- By a call nothing comes into a group but what the call makes in it. -/
theorem inside_step (s : Session) (call : Call) (g : Nat) :
  (s.step call).store.inside g = s.store.inside g ++ under g (s.birth? call).toList
  := by
  cases call with
  | create name description =>
    have hstep : (s.step (.create name description)).store = (s.store.create name description).1 :=
      rfl
    rw [hstep, Store.inside_create]
    exact (List.append_nil _).symm
  | createIn handle name description =>
    obtain ⟨hstep, hbirth⟩ | ⟨parent, made, -, hmade, hstep, hbirth⟩ :=
      s.step_createIn handle name description
    · rw [hstep, hbirth]
      exact (List.append_nil _).symm
    · obtain ⟨outer, houter, -, -, rfl⟩ := Store.exists_of_createIn_eq_ok hmade
      rw [hstep, hbirth, Store.inside_recording houter]
      congr 1
      by_cases hg : parent = g
      · simp [under, hg]
      · simp [under, hg]
  | copy handle => exact (List.append_nil _).symm
  | parent handle => exact (List.append_nil _).symm

/-- Handles stay what they are. -/
theorem exists_handles_step (s : Session) (call : Call) :
  ∃ places, (s.step call).handles = s.handles ++ places
  := by
  cases call with
  | create name description => exact ⟨_, rfl⟩
  | createIn handle name description =>
    obtain ⟨hstep, -⟩ | ⟨parent, made, -, -, hstep, -⟩ := s.step_createIn handle name description
    · rw [hstep]
      exact ⟨[], (List.append_nil _).symm⟩
    · rw [hstep]
      exact ⟨_, rfl⟩
  | copy handle => exact ⟨_, rfl⟩
  | parent handle => exact ⟨_, rfl⟩

/-! ### Any calls -/

theorem run_cons (s : Session) (call : Call) (rest : List Call) :
  s.run (call :: rest) = (s.step call).run rest
  := rfl

/-- Whatever calls are made, all stays in order. -/
theorem Sound.run (h : s.Sound) (calls : List Call) :
  (s.run calls).Sound
  := by
  induction calls generalizing s with
  | nil => exact h
  | cons call rest ih => exact ih (h.step call)

/-- What comes into a group is what calls make in it, in order. -/
theorem inside_run (s : Session) (calls : List Call) (g : Nat) :
  (s.run calls).store.inside g = s.store.inside g ++ under g (s.births calls)
  := by
  induction calls generalizing s with
  | nil => exact (List.append_nil _).symm
  | cons call rest ih =>
    rw [run_cons, ih, inside_step, births, under_append, List.append_assoc]

/-- A handle stands for the same group after any call. -/
theorem place?_step {handle place : Nat} (h : s.place? handle = some place) (call : Call) :
  (s.step call).place? handle = some place
  := by
  obtain ⟨places, hplaces⟩ := s.exists_handles_step call
  rw [place?, hplaces]
  exact List.getElem?_append_left (List.getElem?_eq_some_iff.mp h).1 |>.trans h

/-- A handle stands for the same group after any calls. -/
theorem place?_run {handle place : Nat} (h : s.place? handle = some place) (calls : List Call) :
  (s.run calls).place? handle = some place
  := by
  induction calls generalizing s with
  | nil => exact h
  | cons call rest ih => exact ih (place?_step h call)

/-- A handle stands for a group. -/
theorem Sound.exists_cell? (h : s.Sound) {handle : Nat} (hhandle : handle < s.handles.length) :
  ∃ g c, s.place? handle = some g ∧ s.store.cell? g = some c
  := by
  have hplace : s.place? handle = some s.handles[handle] := List.getElem?_eq_getElem hhandle
  have hg := h.handles _ (List.getElem_mem hhandle)
  exact ⟨_, _, hplace, List.getElem?_eq_getElem hg⟩

/-- A group that is in another has been recorded there. -/
theorem Sound.record_mem (h : s.Sound) {g place : Nat} {c outer : Cell}
    (hc : s.store.cell? g = some c) (hparent : c.parent = some place)
    (houter : s.store.cell? place = some outer) :
  c.record ∈ outer.subGroups
  := by
  rw [(h.store.fits houter).recorded, Store.inside]
  apply List.mem_map_of_mem
  rw [List.mem_filter]
  exact ⟨List.mem_of_getElem? hc, decide_eq_true hparent⟩

/-- From the start, what is recorded in a group is what was made in it. -/
theorem subGroups_eq_under {calls : List Call} {g : Nat} {c : Cell}
    (hc : (empty.run calls).store.cell? g = some c) :
  c.subGroups = under g (empty.births calls)
  := by
  rw [((sound_empty.run calls).store.fits hc).recorded, inside_run]
  rfl

/-! ### What a call gives -/

/-- One more handle was handed out, on a group that there was not before. -/
structure HandsOut (s t : Session) (c : Cell) : Prop where
  handles : t.handles = s.handles ++ [s.store.cells.length]
  new : s.store.cell? s.store.cells.length = none
  kept : t.store.cell? s.store.cells.length = some c

/-- Whoever makes a group at the top obtains a handle on it. -/
theorem exists_perform_create_eq_ok (s : Session) (name description : String) :
  ∃ t, s.perform (.create name description) = .ok t
    ∧ s.HandsOut t ⟨.top name description, none, []⟩
  := by
  refine ⟨_, rfl, rfl, List.getElem?_eq_none (Nat.le_refl _), ?_⟩
  exact (s.store.cell?_create name description _).trans (if_pos rfl)

section

variable {handle g : Nat} {c : Cell} {name : String} (hplace : s.place? handle = some g)
  (hc : s.store.cell? g = some c)
include hplace

/-- To call for a group inside another is to make it there, with a handle on it. -/
theorem perform_createIn (name description : String) :
  s.perform (.createIn handle name description)
    = (s.store.createIn g name description).map fun made =>
        ⟨made.1, s.handles ++ [made.2]⟩
  := by
  rw [perform, hplace]
  rfl

/-- Whoever makes a group inside another obtains a handle on it. -/
theorem exists_handsOut_of_perform_createIn {description : String} {t : Session}
    (h : s.perform (.createIn handle name description) = .ok t) :
  ∃ outer, s.store.cell? g = some outer
    ∧ s.HandsOut t
        ⟨.nested outer.group.name outer.group.description name description, some g, []⟩
  := by
  rw [perform_createIn hplace] at h
  cases hmade : s.store.createIn g name description with
  | error error =>
    rw [hmade] at h
    contradiction
  | ok made =>
    rw [hmade] at h
    obtain rfl := Except.ok.inj h
    obtain ⟨outer, houter, -, -, rfl⟩ := Store.exists_of_createIn_eq_ok hmade
    refine ⟨outer, houter, rfl, List.getElem?_eq_none (Nat.le_refl _), ?_⟩
    exact (Store.cell?_recording houter ⟨name, description⟩ _).trans (if_pos rfl)

include hc

/-- No call makes a group inside one that is in another. -/
theorem perform_createIn_of_nested (h : c.group.parent? ≠ none) (name description : String) :
  s.perform (.createIn handle name description) = .error (.tooDeep name c.group.name)
  := by
  rw [perform_createIn hplace, Store.createIn_of_nested hc h]
  rfl

/-- No call makes a second group of a name inside another. -/
theorem perform_createIn_of_mem (htop : c.group.parent? = none)
    (hmem : name ∈ c.subGroups.map (·.name)) (description : String) :
  s.perform (.createIn handle name description) = .error (.duplicate name c.group.name)
  := by
  rw [perform_createIn hplace, Store.createIn_of_mem hc htop hmem]
  rfl

/-- A call makes a group of a new name inside one at the top. -/
theorem exists_perform_createIn_eq_ok (htop : c.group.parent? = none)
    (hnew : name ∉ c.subGroups.map (·.name)) (description : String) :
  ∃ t, s.perform (.createIn handle name description) = .ok t
  := by
  rw [perform_createIn hplace, Store.createIn_of_notMem hc htop hnew]
  exact ⟨_, rfl⟩

/-- Inside a group at the top a group is made exactly if none of its name was recorded. -/
theorem perform_createIn_iff (htop : c.group.parent? = none) (name description : String) :
  (s.perform (.createIn handle name description) = .error (.duplicate name c.group.name)
      ↔ name ∈ c.subGroups.map (·.name))
    ∧ ((∃ t, s.perform (.createIn handle name description) = .ok t)
      ↔ name ∉ c.subGroups.map (·.name))
  := by
  by_cases hmem : name ∈ c.subGroups.map (·.name)
  · have hperform := perform_createIn_of_mem hplace hc htop hmem description
    refine ⟨iff_of_true hperform hmem, iff_of_false ?_ (not_not_intro hmem)⟩
    rintro ⟨t, ht⟩
    rw [hperform] at ht
    contradiction
  · obtain ⟨t, ht⟩ := exists_perform_createIn_eq_ok hplace hc htop hmem description
    refine ⟨iff_of_false ?_ hmem, iff_of_true ⟨t, ht⟩ hmem⟩
    rw [ht]
    nofun

end

/-- Whatever calls are made, by however many callers and through whichever handles:

* every handle stands for a group;
* a group is in no other or in one at the top, which has recorded it;
* what is recorded in a group are the groups that were made in it, in the order in which they were
  made, and no two of them have the same name;
* no group is made inside one that is in another; inside one at the top a group is made exactly if
  none of its name was made there before, and otherwise it is a duplicate;
* whoever makes a group obtains one more handle, on a new group of this name and description, in the
  group that it was to be made in;
* a call that fails changes nothing;
* two handles on a group show the same of it, whatever is done later, and are the same to call, and
  a copy of a handle is another handle on its group. -/
theorem shared_groups_exact (calls : List Call) :
  let s := empty.run calls
  let made := empty.births calls
  (∀ handle, handle < s.handles.length →
      ∃ g c, s.place? handle = some g ∧ s.store.cell? g = some c)
    ∧ (∀ g c place, s.store.cell? g = some c → c.parent = some place →
        ∃ outer, s.store.cell? place = some outer ∧ outer.parent = none
          ∧ c.group.parent? = some outer.group ∧ c.record ∈ outer.subGroups)
    ∧ (∀ g c, s.store.cell? g = some c →
        c.subGroups = under g made ∧ c.subGroups = s.store.inside g
          ∧ (c.subGroups.map (·.name)).Nodup)
    ∧ (∀ handle g c name description, s.place? handle = some g → s.store.cell? g = some c →
        (c.parent ≠ none →
          s.perform (.createIn handle name description) = .error (.tooDeep name c.group.name))
        ∧ (c.parent = none →
          (s.perform (.createIn handle name description) = .error (.duplicate name c.group.name)
              ↔ ∃ x ∈ under g made, x.name = name)
            ∧ ((∃ t, s.perform (.createIn handle name description) = .ok t)
              ↔ ¬ ∃ x ∈ under g made, x.name = name)))
    ∧ (∀ name description, ∃ t, s.perform (.create name description) = .ok t
        ∧ s.HandsOut t ⟨.top name description, none, []⟩)
    ∧ (∀ handle g name description t, s.place? handle = some g →
        s.perform (.createIn handle name description) = .ok t →
        ∃ outer, s.store.cell? g = some outer
          ∧ s.HandsOut t
              ⟨.nested outer.group.name outer.group.description name description, some g, []⟩)
    ∧ (∀ call error, s.perform call = .error error → s.step call = s)
    ∧ ∀ handle g, s.place? handle = some g →
        (s.step (.copy handle)).place? s.handles.length = some g
          ∧ ∀ handle', s.place? handle' = some g →
              (∀ more, (s.run more).cell? handle' = (s.run more).cell? handle)
                ∧ ∀ name description, s.perform (.createIn handle' name description)
                    = s.perform (.createIn handle name description)
  := by
  intro s made
  have hsound : s.Sound := sound_empty.run calls
  refine ⟨fun handle => hsound.exists_cell?, ?parent, ?recorded, ?calls,
    s.exists_perform_create_eq_ok, ?made, ?failed, ?copies⟩
  case parent =>
    intro g c place hc hparent
    obtain ⟨outer, houter, htop, hgroup⟩ := (hsound.store.fits hc).nested hparent
    exact ⟨outer, houter, htop, hgroup, hsound.record_mem hc hparent houter⟩
  case recorded =>
    intro g c hc
    exact ⟨subGroups_eq_under hc, (hsound.store.fits hc).recorded, (hsound.store.fits hc).distinct⟩
  case calls =>
    intro handle g c name description hplace hc
    have hiff := (hsound.store.fits hc).parent?_eq_none_iff
    constructor
    · intro hnested
      exact perform_createIn_of_nested hplace hc (mt hiff.mp hnested) name description
    · intro htop
      rw [← subGroups_eq_under hc, ← List.mem_map]
      exact perform_createIn_iff hplace hc (hiff.mpr htop) name description
  case made =>
    intro handle g name description t hplace ht
    exact exists_handsOut_of_perform_createIn hplace ht
  case failed =>
    intro call error herror
    rw [step, herror]
    rfl
  case copies =>
    intro handle g hplace
    constructor
    · have hhandles : (s.step (.copy handle)).handles = s.handles ++ (s.place? handle).toList := rfl
      rw [place?, hhandles, hplace]
      exact List.getElem?_concat_length
    · intro handle' hplace'
      constructor
      · intro more
        rw [cell?, cell?, place?_run hplace more, place?_run hplace' more]
      · intro name description
        rw [perform_createIn hplace, perform_createIn hplace']

/-- A group is made inside another through a copy of its handle.  No second one of its name is made
there, whichever handle is called, none is made in the group itself, and the next is recorded after
it. -/
theorem shared_groups_exact_inside :
  let s := empty.run [.create "admin" "a", .copy 0, .createIn 1 "users" "u",
    .createIn 0 "users" "again"]
  s.cell? 2 = some ⟨.nested "admin" "a" "users" "u", some 0, []⟩
    ∧ s.perform (.createIn 0 "users" "") = .error (.duplicate "users" "admin")
    ∧ s.perform (.createIn 2 "more" "") = .error (.tooDeep "more" "users")
    ∧ ∃ t, s.perform (.createIn 0 "roles" "r") = .ok t
        ∧ s.HandsOut t ⟨.nested "admin" "a" "roles" "r", some 0, []⟩
        ∧ (t.cell? 1).map Cell.subGroups = some [⟨"users", "u"⟩, ⟨"roles", "r"⟩]
  := by
  intro s
  obtain ⟨-, -, -, hcalls, -, hmade, -⟩ := shared_groups_exact
    [.create "admin" "a", .copy 0, .createIn 1 "users" "u", .createIn 0 "users" "again"]
  obtain ⟨-, hadmin⟩ := hcalls 0 0 _ "users" "" rfl rfl
  obtain ⟨husers, -⟩ := hcalls 2 1 _ "more" "" rfl rfl
  refine ⟨rfl, (hadmin rfl).1.mpr ?_, husers nofun, ?_⟩
  · exact ⟨⟨"users", "u"⟩, .head _, rfl⟩
  · obtain ⟨t, ht⟩ : ∃ t, s.perform (.createIn 0 "roles" "r") = .ok t := ⟨_, rfl⟩
    obtain ⟨outer, houter, hands⟩ := hmade 0 0 "roles" "r" t rfl ht
    obtain rfl := Option.some.inj houter
    refine ⟨t, ht, hands, ?_⟩
    obtain rfl := Except.ok.inj ht
    rfl

end Session

end Groups

end InteractionRouting
