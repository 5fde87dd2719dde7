import InteractionRouting.Manifest
import Mathlib.Data.List.Induction
import Mathlib.Data.List.Nodup
import Mathlib.Tactic.Common

/-!
# Merging the groups of manifests

Groups come into a manifest one after the other.  What comes of it holds every name once, in the
order in which the names first came, and under each name the first group of that name with the
sub-groups of all groups of that name.  So what was merged before may be merged into other groups
just as well as the groups it came from.
-/

namespace InteractionRouting.Manifest

/-! ### Names in the order in which they first come -/

/-- Of a name that comes again the first stays. -/
theorem eraseDups_concat {α : Type} [BEq α] [LawfulBEq α] (names : List α) (name : α) :
  (names ++ [name]).eraseDups
    = if name ∈ names then names.eraseDups else names.eraseDups ++ [name]
  := by
  rw [List.eraseDups_append]
  split_ifs with h
  · simp [List.removeAll, h]
  · simp [List.removeAll, h, List.eraseDups_cons]

/-- Without its duplicates a list has each name once. -/
theorem nodup_eraseDups (names : List String) :
  names.eraseDups.Nodup
  := by
  induction names using List.reverseRecOn with
  | nil => apply List.nodup_nil
  | append_singleton names name ih =>
    rw [eraseDups_concat]
    split_ifs with h
    · apply ih
    · rw [← List.concat_eq_append]
      apply ih.concat
      rw [List.mem_eraseDups]
      apply h

/-- Names that are distinct all stay. -/
theorem eraseDups_of_nodup {names : List String} (h : names.Nodup) :
  names.eraseDups = names
  := by
  induction names using List.reverseRecOn with
  | nil => rfl
  | append_singleton names name ih =>
    obtain ⟨hnames, -, hnew⟩ := List.nodup_append.mp h
    have hname : name ∉ names := by
      intro hmem
      apply hnew name hmem name (List.mem_singleton_self name) rfl
    rw [eraseDups_concat, if_neg hname, ih hnames]

/-- It makes no difference whether names that come later are distinct already. -/
theorem eraseDups_append_eraseDups (names more : List String) :
  (names ++ more.eraseDups).eraseDups = (names ++ more).eraseDups
  := by
  induction more using List.reverseRecOn with
  | nil => rfl
  | append_singleton more name ih =>
    rw [← List.append_assoc, eraseDups_concat, eraseDups_concat]
    by_cases h : name ∈ more
    · rw [if_pos h, ih, if_pos (List.mem_append_right names h)]
    · rw [if_neg h, ← List.append_assoc, eraseDups_concat, ih]
      simp only [List.mem_append, List.mem_eraseDups]

/-- Where names are distinct everything is found by its name. -/
theorem find?_name_of_mem {α : Type} {name : α → String} {l : List α} (h : (l.map name).Nodup)
    {a : α} (ha : a ∈ l) :
  l.find? (name · = name a) = some a
  := by
  have hsome : (l.find? (name · = name a)).isSome = true := by
    rw [List.find?_isSome]
    use a, ha
    apply decide_eq_true rfl
  obtain ⟨found, hfind⟩ := Option.isSome_iff_exists.mp hsome
  have hname : name found = name a := by simpa using List.find?_some hfind
  rw [hfind, List.inj_on_of_nodup_map h (List.mem_of_find?_eq_some hfind) ha hname]

/-! ### Sub-groups -/

theorem addSubGroups_nil (known : List SubGroup) :
  addSubGroups known [] = known
  := rfl

/-- Groups inside a group are added one part after the other. -/
theorem addSubGroups_append (known more rest : List SubGroup) :
  addSubGroups known (more ++ rest) = addSubGroups (addSubGroups known more) rest
  := List.foldl_append

/-- Of the sub-groups that come in the next is added if its name is new. -/
theorem addSubGroups_concat (known more : List SubGroup) (s : SubGroup) :
  addSubGroups known (more ++ [s])
    = if s.name ∈ (addSubGroups known more).map SubGroup.name then addSubGroups known more
      else addSubGroups known more ++ [s]
  := by
  have hany : (addSubGroups known more).any (·.name == s.name) = true
      ↔ s.name ∈ (addSubGroups known more).map SubGroup.name := by simp
  rw [addSubGroups_append]
  simp only [← hany]
  rfl

/-- The names are those that were known and those that are added. -/
theorem mem_names_addSubGroups {known more : List SubGroup} {name : String} :
  name ∈ (addSubGroups known more).map SubGroup.name
    ↔ name ∈ known.map SubGroup.name ∨ name ∈ more.map SubGroup.name
  := by
  induction more using List.reverseRecOn with
  | nil => simp [addSubGroups_nil]
  | append_singleton more s ih =>
    rw [addSubGroups_concat]
    split_ifs with h
    · grind
    · grind

/-- The names of sub-groups stay in the order in which they first came. -/
theorem names_addSubGroups {known : List SubGroup} (h : (known.map SubGroup.name).Nodup)
    (more : List SubGroup) :
  (addSubGroups known more).map SubGroup.name = ((known ++ more).map SubGroup.name).eraseDups
  := by
  induction more using List.reverseRecOn with
  | nil => rw [List.append_nil, eraseDups_of_nodup h, addSubGroups_nil]
  | append_singleton more s ih =>
    rw [addSubGroups_concat, ← List.append_assoc, List.map_append, List.map_singleton,
      eraseDups_concat]
    simp only [mem_names_addSubGroups, List.map_append, List.mem_append] at ih ⊢
    split_ifs with hs
    · apply ih
    · rw [List.map_append, ih, List.map_singleton]

/-- The names are those that are added, in the order in which they first come. -/
theorem names_addSubGroups_nil (more : List SubGroup) :
  (addSubGroups [] more).map SubGroup.name = (more.map SubGroup.name).eraseDups
  := by
  apply names_addSubGroups
  apply List.nodup_nil

/-- The sub-group of a name is the first that came. -/
theorem find?_addSubGroups (known more : List SubGroup) (name : String) :
  (addSubGroups known more).find? (·.name = name) = (known ++ more).find? (·.name = name)
  := by
  induction more using List.reverseRecOn with
  | nil => rw [List.append_nil, addSubGroups_nil]
  | append_singleton more s ih =>
    rw [addSubGroups_concat, ← List.append_assoc, List.find?_append, ← ih]
    split_ifs with hs
    · by_cases hname : s.name = name
      · have hsome : ((addSubGroups known more).find? (·.name = name)).isSome = true := by
          rw [List.find?_isSome]
          obtain ⟨known', hmem, hknown⟩ := List.mem_map.mp hs
          use known', hmem
          simp [hknown, hname]
        rw [Option.or_of_isSome hsome]
      · simp [hname]
    · rw [List.find?_append]

/-- Sub-groups may be merged among themselves before they come in. -/
theorem addSubGroups_addSubGroups (known more rest : List SubGroup) :
  addSubGroups known (addSubGroups more rest) = addSubGroups known (more ++ rest)
  := by
  induction rest using List.reverseRecOn with
  | nil => rw [List.append_nil, addSubGroups_nil]
  | append_singleton rest s ih =>
    rw [← List.append_assoc, addSubGroups_concat known (more ++ rest), ← ih, addSubGroups_concat]
    by_cases hs : s.name ∈ (addSubGroups more rest).map SubGroup.name
    · rw [if_pos hs, if_pos (mem_names_addSubGroups.mpr (.inr hs))]
    · rw [if_neg hs, addSubGroups_concat]

/-! ### Groups -/

/-- What groups of one name come to: the first of them, with the sub-groups of all. -/
def gather : List Group → Option Group
  | [] => none
  | g :: more => some { g with subGroups := addSubGroups g.subGroups (more.flatMap (·.subGroups)) }

/-- A single group stays as it is. -/
theorem gather_toList (g : Option Group) :
  gather g.toList = g
  := by
  cases g with
  | none => rfl
  | some g => rfl

/-- Some of the groups may be gathered before the others. -/
theorem gather_gather (before groups after : List Group) :
  gather (before ++ (gather groups).toList ++ after) = gather (before ++ groups ++ after)
  := by
  cases groups with
  | nil => rfl
  | cons g more =>
    cases before with
    | nil =>
      simp only [gather, Option.toList_some, List.nil_append, List.cons_append,
        List.flatMap_append, addSubGroups_append]
    | cons b before =>
      simp only [gather, Option.toList_some, List.cons_append, List.append_assoc,
        List.flatMap_append, List.flatMap_cons, List.nil_append, addSubGroups_append,
        addSubGroups_addSubGroups]

/-- A group of a known name adds what is inside it there, and any other is passed on. -/
theorem addGroup_cons (known : Group) (rest : List Group) (g : Group) :
  addGroup (known :: rest) g
    = if known.name = g.name then
        { known with subGroups := addSubGroups known.subGroups g.subGroups } :: rest
      else known :: addGroup rest g
  := rfl

/-- A group of a new name goes to the end; one of a known name leaves the names as they are. -/
theorem names_addGroup (groups : List Group) (g : Group) :
  (addGroup groups g).map Group.name
    = if g.name ∈ groups.map Group.name then groups.map Group.name
      else groups.map Group.name ++ [g.name]
  := by
  induction groups with
  | nil => rfl
  | cons known rest ih =>
    rw [addGroup_cons]
    by_cases hname : known.name = g.name
    · simp [hname]
    · simp only [if_neg hname, List.map_cons, ih, List.mem_cons, Ne.symm hname, false_or]
      split_ifs with hrest
      · rfl
      · rfl

/-- A group of a known name is gathered with the one there is; the other names keep theirs. -/
theorem find?_addGroup (groups : List Group) (g : Group) (name : String) :
  (addGroup groups g).find? (·.name = name)
    = if g.name = name then gather ((groups.find? (·.name = name)).toList ++ [g])
      else groups.find? (·.name = name)
  := by
  induction groups with
  | nil =>
    by_cases hname : g.name = name
    · rw [addGroup, List.find?_cons_of_pos (by simp [hname]), if_pos hname]
      rfl
    · simp [addGroup, hname]
  | cons known rest ih =>
    rw [addGroup_cons]
    by_cases hknown : known.name = g.name
    · by_cases hname : g.name = name
      · simp [hknown, hname, gather]
      · simp [hknown, hname]
    · rw [if_neg hknown]
      by_cases hname : known.name = name
      · have hg : g.name ≠ name := by
          rintro rfl
          contradiction
        simp [hname, hg]
      · simp only [List.find?_cons, hname, decide_false, ih]

/-- Groups after each other. -/
def addGroups (known more : List Group) : List Group := more.foldl addGroup known

theorem addGroups_concat (known more : List Group) (g : Group) :
  addGroups known (more ++ [g]) = addGroup (addGroups known more) g
  := by
  rw [addGroups, List.foldl_append]
  rfl

/-- The names of groups stay in the order in which they first came. -/
theorem names_addGroups {known : List Group} (h : (known.map Group.name).Nodup)
    (more : List Group) :
  (addGroups known more).map Group.name = ((known ++ more).map Group.name).eraseDups
  := by
  induction more using List.reverseRecOn with
  | nil =>
    rw [List.append_nil, eraseDups_of_nodup h]
    rfl
  | append_singleton more g ih =>
    have hmap : (known ++ (more ++ [g])).map Group.name
        = (known ++ more).map Group.name ++ [g.name] := by
      rw [← List.append_assoc]
      apply List.map_append
    rw [addGroups_concat, names_addGroup, ih, hmap, eraseDups_concat]
    simp only [List.mem_eraseDups]

/-- The names are those that are added, in the order in which they first come. -/
theorem names_addGroups_nil (more : List Group) :
  (addGroups [] more).map Group.name = (more.map Group.name).eraseDups
  := by
  apply names_addGroups
  apply List.nodup_nil

/-- The group of a name is what all groups of that name come to. -/
theorem find?_addGroups (known more : List Group) (name : String) :
  (addGroups known more).find? (·.name = name)
    = gather ((known.find? (·.name = name)).toList ++ more.filter (·.name = name))
  := by
  induction more using List.reverseRecOn with
  | nil =>
    rw [List.filter_nil, List.append_nil, gather_toList]
    rfl
  | append_singleton more g ih =>
    rw [addGroups_concat, find?_addGroup, ih, List.filter_append]
    by_cases hname : g.name = name
    · rw [if_pos hname, List.filter_cons_of_pos (by simp [hname]), List.filter_nil,
        ← List.nil_append (Option.toList (gather _)), gather_gather, List.nil_append,
        List.append_assoc]
    · rw [if_neg hname, List.filter_cons_of_neg (by simp [hname]), List.filter_nil,
        List.append_nil]

/-- Adding groups makes no two of one name. -/
theorem nodup_names_addGroups {known : List Group} (h : (known.map Group.name).Nodup)
    (more : List Group) :
  ((addGroups known more).map Group.name).Nodup
  := by
  rw [names_addGroups h]
  apply nodup_eraseDups

/-- Groups that were brought together have distinct names. -/
theorem nodup_names_addGroups_nil (more : List Group) :
  ((addGroups [] more).map Group.name).Nodup
  := by
  apply nodup_names_addGroups
  apply List.nodup_nil

/-- Of groups with distinct names at most one has a name. -/
theorem filter_name_eq {groups : List Group} (h : (groups.map Group.name).Nodup) (name : String) :
  groups.filter (·.name = name) = (groups.find? (·.name = name)).toList
  := by
  induction groups with
  | nil => rfl
  | cons g rest ih =>
    obtain ⟨hg, hrest⟩ := List.nodup_cons.mp h
    by_cases hname : g.name = name
    · have hnone : rest.filter (·.name = name) = [] := by
        rw [List.filter_eq_nil_iff]
        intro other hother heq
        apply hg
        rw [hname, ← of_decide_eq_true heq]
        apply List.mem_map_of_mem hother
      rw [List.filter_cons_of_pos (by simp [hname]), List.find?_cons_of_pos (by simp [hname]),
        hnone, Option.toList_some]
    · rw [List.filter_cons_of_neg (by simp [hname]), List.find?_cons_of_neg (by simp [hname]),
        ih hrest]

/-- Groups with distinct names are known by their names in order and by the group of each
name. -/
theorem filterMap_find?_names {groups : List Group} (h : (groups.map Group.name).Nodup) :
  (groups.map Group.name).filterMap (fun name => groups.find? (·.name = name)) = groups
  := by
  rw [List.filterMap_map]
  have hfind : ∀ g ∈ groups,
      ((fun name => groups.find? (·.name = name)) ∘ Group.name) g = some g := by
    intro g hg
    apply find?_name_of_mem h hg
  rw [List.filterMap_congr hfind, List.filterMap_some]

/-- Groups may be merged among themselves before they come in. -/
theorem addGroups_addGroups {known : List Group} (h : (known.map Group.name).Nodup)
    (more : List Group) :
  addGroups known (addGroups [] more) = addGroups known more
  := by
  have hnames : (addGroups known (addGroups [] more)).map Group.name
      = (addGroups known more).map Group.name := by
    rw [names_addGroups h, names_addGroups h, List.map_append, List.map_append,
      names_addGroups_nil, eraseDups_append_eraseDups]
  have hfind (name : String) : (addGroups known (addGroups [] more)).find? (·.name = name)
      = (addGroups known more).find? (·.name = name) := by
    have hgather := gather_gather (known.find? (·.name = name)).toList
      (more.filter (·.name = name)) []
    rw [List.append_nil, List.append_nil] at hgather
    rw [find?_addGroups, filter_name_eq (nodup_names_addGroups_nil more), find?_addGroups [],
      List.find?_nil, Option.toList_none, List.nil_append, hgather, find?_addGroups]
  rw [← filterMap_find?_names (nodup_names_addGroups h (addGroups [] more)),
    ← filterMap_find?_names (nodup_names_addGroups h more), hnames]
  simp only [hfind]

end InteractionRouting.Manifest
