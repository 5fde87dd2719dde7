import InteractionRouting.Proofs.Catalogue.Matching
import InteractionRouting.Proofs.Manifest.Merging

/-!
# What a catalogue is compiled into

The manifest of a catalogue lists the groups that its commands are in and no others, each once
and where a command is first in it, described as that command has it.  The same holds of the
groups inside each of them.  A catalogue may be compiled in parts: the manifests of the parts,
one after the other, are the manifest of the whole.
-/

namespace InteractionRouting

/-- The group as it is registered inside the group it is in. -/
def Group.subListing (g : Group) : Manifest.SubGroup := ⟨g.name, g.description⟩

/-- A group brings at most itself along, so there is nothing to merge. -/
theorem Group.addSubGroups_listing (g : Group) :
  Manifest.addSubGroups [] g.listing.subGroups = g.listing.subGroups
  := by
  cases g with
  | top name description => rfl
  | nested parent parentDescription name description => rfl

/-- What groups of one outer name bring along are those that are inside it. -/
theorem Group.flatMap_subGroups_listing (refs : List Group) (name : String) :
  (refs.filter (·.topLevel.name = name)).flatMap (·.listing.subGroups)
    = (refs.filter (·.parentName? = some name)).map Group.subListing
  := by
  induction refs with
  | nil => rfl
  | cons g refs ih =>
    cases g with
    | top outer description =>
      have hinside : (top outer description).parentName? = none := rfl
      have hsub : (top outer description).listing.subGroups = [] := rfl
      simp only [List.filter_cons, hinside, reduceCtorEq, decide_false, Bool.false_eq_true,
        if_false]
      split_ifs with hname
      · rw [List.flatMap_cons, hsub, List.nil_append, ih]
      · apply ih
    | nested parent parentDescription inner description =>
      have houter : (nested parent parentDescription inner description).topLevel.name = parent :=
        rfl
      have hinside :
          (nested parent parentDescription inner description).parentName? = some parent :=
        rfl
      simp only [List.filter_cons, houter, hinside, Option.some.injEq, decide_eq_true_eq]
      split_ifs with hname
      · rw [List.flatMap_cons, List.map_cons, ih]
        rfl
      · apply ih

/-- A command is listed in a group inside another exactly if it is in that group. -/
theorem Command.listing_subGroup_iff {η : Type} {d : Command η} {outer inner : String} :
  d.listing.group = some outer ∧ d.listing.subGroup = some inner
    ↔ ∃ g, d.group = some g ∧ g.parentName? = some outer ∧ g.name = inner
  := by
  unfold listing
  cases d.group with
  | none => simp
  | some g =>
    cases g with
    | top name description => simp [Group.parentName?]
    | nested parent parentDescription name description =>
      simp [Group.parentName?, Group.topLevel, Group.parent?, Group.name]

namespace Catalogue

variable {η : Type}

open Manifest in
/-- The groups of a manifest are those of its commands, brought together in order. -/
theorem groups_manifestOf (commands : List (Command η)) :
  (manifestOf commands).groups
    = addGroups [] ((commands.filterMap Command.group).map Group.listing)
  := by
  rw [manifestOf, addGroups, List.foldl_map]

/-- The manifests of two lists of commands, one after the other, are the manifest of both. -/
theorem manifestOf_append (before after : List (Command η)) :
  manifestOf (before ++ after) = (manifestOf before).append (manifestOf after)
  := by
  have hnodup := Manifest.nodup_names_addGroups_nil
    ((before.filterMap Command.group).map Group.listing)
  have hgroups : (manifestOf (before ++ after)).groups
      = Manifest.addGroups (manifestOf before).groups (manifestOf after).groups := by
    rw [groups_manifestOf, groups_manifestOf, groups_manifestOf,
      Manifest.addGroups_addGroups hnodup, List.filterMap_append, List.map_append,
      Manifest.addGroups, List.foldl_append]
    rfl
  have hcommands : (manifestOf (before ++ after)).commands
      = (manifestOf before).commands ++ (manifestOf after).commands := List.map_append
  rw [Manifest.append, ← Manifest.addGroups, ← hgroups, ← hcommands]

/-- The group of a name is what the groups of that outer name come to. -/
theorem find?_addGroups_listing (refs : List Group) (name : String) :
  (Manifest.addGroups [] (refs.map Group.listing)).find? (·.name = name)
    = Manifest.gather ((refs.filter (·.topLevel.name = name)).map Group.listing)
  := by
  rw [Manifest.find?_addGroups, List.find?_nil, Option.toList_none, List.nil_append,
    List.filter_map]
  rfl

/-- A group that is listed is described as the first that is referred to has it, and holds the
groups inside it that are referred to. -/
theorem exists_first_of_mem {refs : List Group} {g : Manifest.Group}
    (h : g ∈ Manifest.addGroups [] (refs.map Group.listing)) :
  ∃ first, refs.find? (·.topLevel.name = g.name) = some first
    ∧ g.description = first.topLevel.description
    ∧ g.subGroups = Manifest.addSubGroups []
        ((refs.filter (·.parentName? = some g.name)).map Group.subListing)
  := by
  have hfind := Manifest.find?_name_of_mem
    (Manifest.nodup_names_addGroups_nil (refs.map Group.listing)) h
  rw [find?_addGroups_listing] at hfind
  rw [← Group.flatMap_subGroups_listing, ← List.head?_filter]
  cases hrefs : refs.filter (·.topLevel.name = g.name) with
  | nil =>
    rw [hrefs] at hfind
    contradiction
  | cons first rest =>
    rw [hrefs, List.map_cons, Manifest.gather, Option.some.injEq, List.flatMap_map] at hfind
    use first, rfl
    constructor
    · symm
      apply congrArg Manifest.Group.description hfind
    · rw [List.flatMap_cons, Manifest.addSubGroups_append, Group.addSubGroups_listing]
      symm
      apply congrArg Manifest.Group.subGroups hfind

/-- The sub-groups that are listed are those that are referred to, each described as it is
first. -/
theorem subGroups_exact (inside : List Group) :
  let subs := Manifest.addSubGroups [] (inside.map Group.subListing)
  (subs.map (·.name)).Nodup
    ∧ subs.map (·.name) = (inside.map (·.name)).eraseDups
    ∧ ∀ s ∈ subs, (inside.find? (·.name = s.name)).map (·.description) = some s.description
  := by
  intro subs
  have hnames : subs.map (·.name) = (inside.map (·.name)).eraseDups := by
    rw [Manifest.names_addSubGroups_nil, List.map_map]
    rfl
  have hnodup : (subs.map (·.name)).Nodup := by
    rw [hnames]
    apply Manifest.nodup_eraseDups
  use hnodup, hnames
  intro s hs
  have hfind := Manifest.find?_name_of_mem hnodup hs
  rw [Manifest.find?_addSubGroups, List.nil_append, List.find?_map, Option.map_eq_some_iff]
    at hfind
  obtain ⟨first, hfirst, rfl⟩ := hfind
  apply Option.map_eq_some_iff.mpr
  use first, hfirst
  rfl

/-- A group inside a listed group is listed exactly if a command is listed in it. -/
theorem mem_subGroups_iff {commands : List (Command η)} {g : Manifest.Group}
    (hg : g ∈ (manifestOf commands).groups) {sub : String} :
  sub ∈ g.subGroups.map (·.name)
    ↔ ∃ f ∈ (manifestOf commands).commands, f.group = some g.name ∧ f.subGroup = some sub
  := by
  rw [groups_manifestOf] at hg
  obtain ⟨-, -, -, hsubs⟩ := exists_first_of_mem hg
  rw [hsubs, (subGroups_exact _).2.1, List.mem_eraseDups, List.mem_map]
  constructor
  · rintro ⟨r, hr, rfl⟩
    obtain ⟨hrefs, hparent⟩ := List.mem_filter.mp hr
    obtain ⟨d, hd, hgroup⟩ := List.mem_filterMap.mp hrefs
    use d.listing, List.mem_map_of_mem hd
    apply Command.listing_subGroup_iff.mpr
    use r, hgroup, of_decide_eq_true hparent
  · rintro ⟨f, hf, houter, hinner⟩
    obtain ⟨d, hd, rfl⟩ := List.mem_map.mp hf
    obtain ⟨r, hgroup, hparent, hname⟩ := Command.listing_subGroup_iff.mp ⟨houter, hinner⟩
    use r
    constructor
    · apply List.mem_filter.mpr
      use List.mem_filterMap.mpr ⟨d, hd, hgroup⟩
      apply decide_eq_true hparent
    · apply hname

/-- After any commands were added, the manifest lists the groups that commands are in and no
others: each name once and in the order in which the commands refer to it, described as the
first of these commands has it.  The same holds inside each group of the groups inside it: a
group in which there is no command is not listed.  Every command that is listed refers to groups
that are listed, one inside the other. -/
theorem compile_groups_exact (added : List (Command η)) :
  let c := (empty : Catalogue η).addAll added
  let m := c.compile
  let refs := c.commands.filterMap Command.group
  (m.groups.map (·.name)).Nodup
    ∧ m.groups.map (·.name) = (refs.map (·.topLevel.name)).eraseDups
    ∧ (∀ g ∈ m.groups,
        (refs.find? (·.topLevel.name = g.name)).map (·.topLevel.description) = some g.description)
    ∧ (∀ g ∈ m.groups,
        let inside := refs.filter (·.parentName? = some g.name)
        (g.subGroups.map (·.name)).Nodup
          ∧ g.subGroups.map (·.name) = (inside.map (·.name)).eraseDups
          ∧ ∀ s ∈ g.subGroups,
              (inside.find? (·.name = s.name)).map (·.description) = some s.description)
    ∧ (∀ g ∈ m.groups, ∀ sub, sub ∈ g.subGroups.map (·.name)
        ↔ ∃ f ∈ m.commands, f.group = some g.name ∧ f.subGroup = some sub)
    ∧ ∀ f ∈ m.commands,
        (f.group = none → f.subGroup = none)
          ∧ ∀ name, f.group = some name →
              ∃ g ∈ m.groups, g.name = name
                ∧ ∀ sub, f.subGroup = some sub → sub ∈ g.subGroups.map (·.name)
  := by
  intro c m refs
  have hgroups : m.groups = Manifest.addGroups [] (refs.map Group.listing) :=
    groups_manifestOf c.commands
  have hnames : m.groups.map (·.name) = (refs.map (·.topLevel.name)).eraseDups := by
    rw [hgroups, Manifest.names_addGroups_nil, List.map_map]
    rfl
  have hfirst : ∀ g ∈ m.groups, ∃ first, refs.find? (·.topLevel.name = g.name) = some first
      ∧ g.description = first.topLevel.description
      ∧ g.subGroups = Manifest.addSubGroups []
          ((refs.filter (·.parentName? = some g.name)).map Group.subListing) := by
    rw [hgroups]
    intro g hg
    apply exists_first_of_mem hg
  refine ⟨?_, hnames, ?_, ?_, fun g hg sub => mem_subGroups_iff hg, ?_⟩
  · rw [hnames]
    apply Manifest.nodup_eraseDups
  · intro g hg
    obtain ⟨first, hfind, hdescription, -⟩ := hfirst g hg
    rw [hfind, hdescription, Option.map_some]
  · intro g hg inside
    obtain ⟨-, -, -, hsubs⟩ := hfirst g hg
    rw [hsubs]
    apply subGroups_exact
  · intro f hf
    obtain ⟨d, hd, rfl⟩ := List.mem_map.mp hf
    constructor
    · intro hgroup
      have hnone : d.group = none := Option.map_eq_none_iff.mp hgroup
      rw [Command.listing, hnone]
      rfl
    · intro name hname
      obtain ⟨r, hgroup, rfl⟩ := Option.map_eq_some_iff.mp hname
      have hlisted : r.topLevel.name ∈ m.groups.map (·.name) := by
        rw [hnames, List.mem_eraseDups]
        apply List.mem_map_of_mem (List.mem_filterMap.mpr ⟨d, hd, hgroup⟩)
      obtain ⟨g, hg, hgname⟩ := List.mem_map.mp hlisted
      use g, hg, hgname
      intro sub hsub
      rw [mem_subGroups_iff hg, hgname]
      use d.listing, hf

end Catalogue

end InteractionRouting
