import InteractionRouting.Proofs.Catalogue.Matching
import InteractionRouting.Proofs.Manifest.Merging

/-!
# Which commands a catalogue takes in

Commands are added one after the other, and each is refused if one of its key was added before.  So
a catalogue holds the first command of every key, in the order in which the keys first came.  The
commands are still told apart when they are registered, where a command is known by its name and by
the names of the groups it is in.
-/

namespace InteractionRouting

/-! ### Commands as they are told apart -/

theorem Group.map_name_parent? (g : Group) :
  g.parent?.map Group.name = g.parentName?
  := by
  cases g with
  | top | nested => rfl

/-- Commands are told apart by their names, by the names of their groups, and by the names of the
groups that these are in, and by nothing else. -/
theorem Command.key_eq_iff {η : Type} {c d : Command η} :
  c.key = d.key ↔ c.name = d.name ∧ c.group.map Group.name = d.group.map Group.name
    ∧ (c.group.bind Group.parent?).map Group.name = (d.group.bind Group.parent?).map Group.name
  := by
  rw [key, key, Key.mk.injEq, Option.map_bind, Option.map_bind]
  simp only [Function.comp_def, Group.map_name_parent?]

/-- What sets a command that is registered apart from every other: its name, the name of the group
at the top, and the name of the group inside that one. -/
def Manifest.Command.place (c : Manifest.Command) : String × Option String × Option String :=
  (c.name, c.group, c.subGroup)

/-- Commands are told apart by their keys just as well when they are registered. -/
theorem Command.place_listing_eq_iff {η : Type} {c d : Command η} :
  c.listing.place = d.listing.place ↔ c.key = d.key
  := by
  obtain ⟨name, _, _, group, _, _⟩ := c
  obtain ⟨name', _, _, group', _, _⟩ := d
  simp only [Manifest.Command.place, listing, key, Prod.mk.injEq, Key.mk.injEq]
  apply and_congr_right
  rintro -
  obtain _ | ⟨⟨⟩ | ⟨⟩⟩ := group
  all_goals
    obtain _ | ⟨⟨⟩ | ⟨⟩⟩ := group'
    all_goals
      simp [Group.topLevel, Group.parent?, Group.parentName?, Group.name, and_comm]

namespace Catalogue

variable {η : Type}

/-- Commands that are told apart are still told apart when they are registered. -/
theorem nodup_places_manifestOf {commands : List (Command η)}
    (h : (commands.map Command.key).Nodup) :
  ((manifestOf commands).commands.map Manifest.Command.place).Nodup
  := by
  rw [manifestOf, List.map_map, List.Nodup, List.pairwise_map]
  rw [List.Nodup, List.pairwise_map] at h
  apply h.imp
  intro c d hkeys hplaces
  apply hkeys
  apply Command.place_listing_eq_iff.mp hplaces

/-! ### Commands that are added -/

/-- A command is refused exactly if there is one of its key, and the error names its path. -/
theorem add_eq_error_iff {c : Catalogue η} {d : Command η} {e : DuplicateCommand} :
  c.add d = .error e ↔ d.key ∈ c.commands.map Command.key ∧ e = ⟨d.path⟩
  := by
  by_cases h : d.key ∈ c.commands.map Command.key
  · rw [add_of_mem h, Except.error.injEq, and_iff_right h, eq_comm]
  · obtain ⟨c', hadd, -⟩ := add_of_notMem h
    simp [hadd, h]

/-- A command that is added comes last. -/
theorem commands_of_add {c c' : Catalogue η} {d : Command η} (h : c.add d = .ok c') :
  c'.commands = c.commands ++ [d]
  := by
  by_cases hd : d.key ∈ c.commands.map Command.key
  · rw [add_of_mem hd] at h
    contradiction
  · obtain ⟨_, hadd, hcommands⟩ := add_of_notMem hd
    obtain rfl := Except.ok.inj (hadd.symm.trans h)
    apply hcommands

/-- The last command of a list is added after the others, unless it is refused. -/
theorem addAll_concat (c : Catalogue η) (added : List (Command η)) (d : Command η) :
  c.addAll (added ++ [d]) = ((c.addAll added).add d).toOption.getD (c.addAll added)
  := List.foldl_append

/-- A command that is refused changes nothing. -/
theorem addAll_concat_of_error {c : Catalogue η} {added : List (Command η)} {d : Command η}
    {e : DuplicateCommand} (h : (c.addAll added).add d = .error e) :
  c.addAll (added ++ [d]) = c.addAll added
  := by
  rw [addAll_concat, h]
  rfl

theorem addAll_concat_of_ok {c c' : Catalogue η} {added : List (Command η)} {d : Command η}
    (h : (c.addAll added).add d = .ok c') :
  c.addAll (added ++ [d]) = c'
  := by
  rw [addAll_concat, h]
  rfl

/-- The keys of a catalogue are those of the commands that were added, in the order in which they
first came. -/
theorem keys_addAll (added : List (Command η)) :
  ((empty : Catalogue η).addAll added).commands.map Command.key
    = (added.map Command.key).eraseDups
  := by
  induction added using List.reverseRecOn with
  | nil => rfl
  | append_singleton added d ih =>
    rw [List.map_append, List.map_singleton, Manifest.eraseDups_concat, ← ih]
    have hknown : d.key ∈ added.map Command.key
        ↔ d.key ∈ ((empty : Catalogue η).addAll added).commands.map Command.key := by
      rw [ih, List.mem_eraseDups]
    cases hadd : ((empty : Catalogue η).addAll added).add d with
    | error e =>
      rw [if_pos (hknown.mpr (add_eq_error_iff.mp hadd).1), addAll_concat_of_error hadd]
    | ok c =>
      have hnew : d.key ∉ added.map Command.key := by
        rw [hknown]
        intro hmem
        rw [add_of_mem hmem] at hadd
        contradiction
      rw [if_neg hnew, addAll_concat_of_ok hadd, commands_of_add hadd, List.map_append,
        List.map_singleton]

/-- A command is refused after others exactly if one of its key is among them. -/
theorem addAll_add_eq_error_iff {earlier : List (Command η)} {d : Command η}
    {e : DuplicateCommand} :
  ((empty : Catalogue η).addAll earlier).add d = .error e
    ↔ (∃ first ∈ earlier, first.key = d.key) ∧ e = ⟨d.path⟩
  := by
  rw [add_eq_error_iff, keys_addAll, List.mem_eraseDups, List.mem_map]

/-- Every command of a catalogue is the first of its key that was added. -/
theorem find?_key_of_mem_addAll {added : List (Command η)} {d : Command η}
    (h : d ∈ ((empty : Catalogue η).addAll added).commands) :
  added.find? (·.key = d.key) = some d
  := by
  obtain h | ⟨-, h⟩ := mem_addAll_iff.mp h
  · contradiction
  · apply h

/-- A catalogue holds the first command of each key, in the order of the keys. -/
theorem commands_addAll_eq (added : List (Command η)) :
  ((empty : Catalogue η).addAll added).commands
    = (added.map Command.key).eraseDups.filterMap fun key => added.find? (·.key = key)
  := by
  rw [← keys_addAll, List.filterMap_map]
  symm
  have hfirst : ∀ d ∈ ((empty : Catalogue η).addAll added).commands,
      added.find? (·.key = d.key) = some d := fun d => find?_key_of_mem_addAll
  exact (List.filterMap_congr hfirst).trans List.filterMap_some

/-- Whatever commands are added to a catalogue, one after the other:

* Two have the same key exactly if they have the same name, in groups of the same name that are in
  groups of the same name.
* Each is refused exactly if one of its key was added before, of whatever kind and description that
  is and from whichever group it comes.  Then the catalogue stays as it is, and otherwise the
  command comes last.
* The catalogue holds the first command of each key, in the order in which the keys first came.
* Each of its commands is registered, in this order, and no two of them under one name and in groups
  of the same names. -/
theorem first_of_each_key (added : List (Command η)) :
  let c := (empty : Catalogue η).addAll added
  (∀ d d' : Command η, d.key = d'.key
      ↔ d.name = d'.name ∧ d.group.map Group.name = d'.group.map Group.name
        ∧ (d.group.bind Group.parent?).map Group.name
          = (d'.group.bind Group.parent?).map Group.name)
    ∧ (∀ earlier d later, added = earlier ++ d :: later →
      let before := (empty : Catalogue η).addAll earlier
      let after := (empty : Catalogue η).addAll (earlier ++ [d])
      (∀ e, before.add d = .error e
          ↔ (∃ first ∈ earlier, first.key = d.key) ∧ e = ⟨d.path⟩)
        ∧ (∀ e, before.add d = .error e → after = before)
        ∧ ∀ c', before.add d = .ok c' → after = c' ∧ c'.commands = before.commands ++ [d])
    ∧ c.commands
      = ((added.map Command.key).eraseDups.filterMap fun key => added.find? (·.key = key))
    ∧ c.commands.map Command.key = (added.map Command.key).eraseDups
    ∧ c.compile.commands = c.commands.map Command.listing
    ∧ (c.compile.commands.map Manifest.Command.place).Nodup
  := by
  intro c
  refine ⟨fun _ _ => Command.key_eq_iff, ?_, commands_addAll_eq added, keys_addAll added, rfl,
    nodup_places_manifestOf c.nodup⟩
  intro earlier d later _ before after
  refine ⟨fun e => addAll_add_eq_error_iff, fun e => addAll_concat_of_error, ?_⟩
  intro c' hadd
  exact ⟨addAll_concat_of_ok hadd, commands_of_add hadd⟩

/-- A group of the same name is as good as the group itself, but one inside it is not. -/
example :
  let ban (kind : CommandKind) (group : Group) : Command Unit :=
    ⟨"ban", "", kind, some group, .empty, ()⟩
  ((empty : Catalogue Unit).addAll [ban .chat (.top "mod" "Moderation"),
      ban .user (.top "mod" ""), ban .chat (.nested "mod" "" "mod" "")]).commands
    = [ban .chat (.top "mod" "Moderation"), ban .chat (.nested "mod" "" "mod" "")]
  := rfl

end Catalogue

end InteractionRouting
