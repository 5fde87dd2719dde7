import InteractionRouting.Catalogue
import Mathlib.Data.List.Nodup
import Mathlib.Tactic.Common

/-!
# The command that an envelope means

An envelope names a command by its name, its kind and the names of its groups.  In a catalogue
it finds the one command of that name, kind and groups, if there is one, wherever it stands;
and the envelope made from a registered listing finds the command of that listing.
-/

namespace InteractionRouting

/-- The groups that an envelope names, inner and outer, with the name of the command. -/
def CommandEnvelope.key (e : CommandEnvelope) : Command.Key :=
  ⟨e.name, e.parentName, e.parentParentName⟩

/-- The envelope that invokes a command by its listing: of two groups the inner is the parent
and the outer the parent's parent. -/
def Manifest.Command.invoked (f : Manifest.Command) (e : CommandEnvelope) : CommandEnvelope :=
  { e with
    name := f.name
    kind := f.kind
    parentName := f.subGroup.or f.group
    parentParentName := f.subGroup.bind fun _ => f.group }

namespace Catalogue

variable {η : Type}

/-- Adds commands one after the other; those that are refused are left out. -/
def addAll (c : Catalogue η) (added : List (Command η)) : Catalogue η :=
  added.foldl (fun c d => (c.add d).toOption.getD c) c

/-- A command of a new key is added, after all others. -/
theorem add_of_notMem {c : Catalogue η} {d : Command η} (h : d.key ∉ c.commands.map Command.key) :
  ∃ c', c.add d = .ok c' ∧ c'.commands = c.commands ++ [d]
  := by
  rw [← contains_iff] at h
  rw [add, dif_neg h]
  exact ⟨_, rfl, rfl⟩

/-- A command of a known key is refused. -/
theorem add_of_mem {c : Catalogue η} {d : Command η} (h : d.key ∈ c.commands.map Command.key) :
  c.add d = .error ⟨d.path⟩
  := by
  rw [← contains_iff] at h
  rw [add, dif_pos h]

/-- The commands that were not refused are the first of their key. -/
theorem mem_addAll_iff {c : Catalogue η} {added : List (Command η)} {d : Command η} :
  d ∈ (c.addAll added).commands ↔ d ∈ c.commands
    ∨ d.key ∉ c.commands.map Command.key ∧ added.find? (fun first => first.key = d.key) = some d
  := by
  induction added generalizing c with
  | nil => simp [addAll]
  | cons first rest ih =>
    rw [addAll, List.foldl_cons, ← addAll]
    by_cases hknown : first.key ∈ c.commands.map Command.key
    · rw [add_of_mem hknown]
      simp only [Except.toOption, Option.getD_none]
      rw [ih, List.find?_cons]
      by_cases hkey : first.key = d.key
      · rw [hkey] at hknown
        simp only [hknown, not_true, false_and]
      · simp only [hkey, decide_false]
    · obtain ⟨c', hadd, hcommands⟩ := add_of_notMem hknown
      rw [hadd]
      simp only [Except.toOption, Option.getD_some]
      rw [ih, hcommands, List.find?_cons, List.mem_append, List.mem_singleton, List.map_append,
        List.mem_append, List.map_singleton, List.mem_singleton]
      by_cases hkey : first.key = d.key
      · rw [hkey] at hknown
        simp [hkey, hknown, eq_comm]
      · have hne : d ≠ first := by
          rintro rfl
          contradiction
        simp [hkey, Ne.symm hkey, hne]

/-- The command has the name and the kind that an envelope says, is in the group it says, and
that group is in the group it says; where it says none there is none. -/
structure IsNamedBy (d : Command η) (e : CommandEnvelope) : Prop where
  name : d.name = e.name
  kind : d.kind = e.kind
  parent : d.group.bind (·.parentName?) = e.parentParentName
  group : d.group.map (·.name) = e.parentName

/-- A command that an envelope names has the key that is read off the envelope. -/
theorem IsNamedBy.key_eq {d : Command η} {e : CommandEnvelope} (h : IsNamedBy d e) :
  d.key = e.key
  := by
  rw [Command.key, CommandEnvelope.key, h.name, h.group, h.parent]

theorem isNamedBy_iff {d : Command η} {e : CommandEnvelope} :
  IsNamedBy d e ↔ (d.name = e.name ∧ d.kind = e.kind)
    ∧ d.group.bind (·.parentName?) = e.parentParentName ∧ d.group.map (·.name) = e.parentName
  := by
  constructor
  · rintro ⟨hname, hkind, hparent, hgroup⟩
    exact ⟨⟨hname, hkind⟩, hparent, hgroup⟩
  · rintro ⟨⟨hname, hkind⟩, hparent, hgroup⟩
    exact ⟨hname, hkind, hparent, hgroup⟩

/-- The three ways to name a group come to one condition. -/
theorem means_iff {e : CommandEnvelope} {d : Command η} :
  means e d = true ↔ IsNamedBy d e
  := by
  rw [isNamedBy_iff, means, Bool.and_eq_true, Bool.and_eq_true, decide_eq_true_eq,
    decide_eq_true_eq]
  apply and_congr_right
  intro _
  cases e.parentParentName with
  | some top =>
    cases d.group with
    | none => simp
    | some g => simp [and_comm]
  | none =>
    cases e.parentName with
    | some parent =>
      cases d.group with
      | none => simp
      | some g => simp
    | none =>
      cases d.group with
      | none => simp
      | some g => simp

/-- Of two commands of a catalogue with one key there is only one. -/
theorem eq_of_key_eq {c : Catalogue η} {d d' : Command η} (hd : d ∈ c.commands)
    (hd' : d' ∈ c.commands) (h : d.key = d'.key) :
  d = d'
  := List.inj_on_of_nodup_map c.nodup hd hd' h

/-- The command that is found for an envelope is the one in the catalogue that it names. -/
theorem find?_eq_some_iff {c : Catalogue η} {e : CommandEnvelope} {d : Command η} :
  c.find? e = some d ↔ d ∈ c.commands ∧ IsNamedBy d e
  := by
  constructor
  · intro h
    exact ⟨List.mem_of_find?_eq_some h, means_iff.mp (List.find?_some h)⟩
  · rintro ⟨hd, hnamed⟩
    obtain ⟨d', hfind⟩ := Option.isSome_iff_exists.mp
      (List.find?_isSome.mpr ⟨d, hd, means_iff.mpr hnamed⟩)
    have hd' := List.mem_of_find?_eq_some hfind
    have hnamed' := means_iff.mp (List.find?_some hfind)
    rw [find?, hfind, eq_of_key_eq hd' hd (hnamed'.key_eq.trans hnamed.key_eq.symm)]

/-- The path of a command is the qualified name of the envelopes that name it. -/
theorem IsNamedBy.path_eq {d : Command η} {e : CommandEnvelope} (h : IsNamedBy d e) :
  d.path = e.qualifiedName
  := by
  rw [CommandEnvelope.qualifiedName, ← h.name, ← h.parent, ← h.group, Command.path]
  cases d.group with
  | none => rfl
  | some g =>
    cases g with
    | top name description => rfl
    | nested parent parentDescription name description => rfl

/-- A command is named by the envelope that invokes it by its listing. -/
theorem isNamedBy_invoked (d : Command η) (e : CommandEnvelope) :
  IsNamedBy d (d.listing.invoked e)
  := by
  rw [isNamedBy_iff, Manifest.Command.invoked, Command.listing]
  refine ⟨⟨rfl, rfl⟩, ?_⟩
  cases d.group with
  | none => exact ⟨rfl, rfl⟩
  | some g =>
    cases g with
    | top name description => exact ⟨rfl, rfl⟩
    | nested parent parentDescription name description => exact ⟨rfl, rfl⟩

/-- An envelope that names an outer group and no inner one finds nothing. -/
theorem find?_of_parent_missing {e : CommandEnvelope} (htop : e.parentParentName.isSome = true)
    (hparent : e.parentName = none) (c : Catalogue η) :
  c.find? e = none
  := by
  rw [Option.eq_none_iff_forall_ne_some]
  intro d hfind
  obtain ⟨-, hnamed⟩ := find?_eq_some_iff.mp hfind
  have hgroup := hnamed.group
  rw [hparent, Option.map_eq_none_iff] at hgroup
  rw [← hnamed.parent, hgroup] at htop
  contradiction

/-- The command that an envelope means does not depend on the order of the commands. -/
theorem find?_perm {c c' : Catalogue η} (h : c'.commands.Perm c.commands) (e : CommandEnvelope) :
  c'.find? e = c.find? e
  := by
  apply Option.ext
  intro d
  rw [find?_eq_some_iff, find?_eq_some_iff, h.mem_iff]

/-- After any commands were added, an envelope finds a command exactly if the command was the
first of its key and has the name, the kind and the groups that the envelope says.  There is at
most one, whatever the order of the commands, and its path is the qualified name of the
envelope.  Every command is found by the envelope that invokes it by its registered listing, and
no other command is. -/
theorem find?_exact (added : List (Command η)) (e : CommandEnvelope) :
  let c := (empty : Catalogue η).addAll added
  (∀ d, d ∈ c.commands ↔ added.find? (fun first => first.key = d.key) = some d)
    ∧ (∀ d, c.find? e = some d ↔ d ∈ c.commands ∧ IsNamedBy d e)
    ∧ (e.parentParentName.isSome = true → e.parentName = none → c.find? e = none)
    ∧ (∀ i j : Fin c.commands.length,
        IsNamedBy c.commands[i] e → IsNamedBy c.commands[j] e → i = j)
    ∧ (∀ c' : Catalogue η, c'.commands.Perm c.commands → c'.find? e = c.find? e)
    ∧ (∀ d, c.find? e = some d → d.path = e.qualifiedName)
    ∧ c.compile.commands.length = c.commands.length
    ∧ ∀ (i : Nat) (f : Manifest.Command), c.compile.commands[i]? = some f →
        c.find? (f.invoked e) = c.commands[i]?
          ∧ ∀ d ∈ c.commands, IsNamedBy d (f.invoked e) → c.commands[i]? = some d
  := by
  intro c
  refine ⟨?_, fun d => find?_eq_some_iff, fun htop hparent => find?_of_parent_missing htop hparent c,
    ?_, fun c' h => find?_perm h e, ?_, by simp [compile, manifestOf], ?_⟩
  · intro d
    rw [mem_addAll_iff]
    simp [empty]
  · intro i j hi hj
    have hsame : c.commands[i] = c.commands[j] :=
      eq_of_key_eq (List.getElem_mem i.isLt) (List.getElem_mem j.isLt)
        (hi.key_eq.trans hj.key_eq.symm)
    apply Fin.ext
    apply (c.nodup.of_map Command.key).getElem_inj_iff.mp hsame
  · intro d hfind
    apply (find?_eq_some_iff.mp hfind).2.path_eq
  · intro i f hf
    rw [compile, manifestOf, List.getElem?_map, Option.map_eq_some_iff] at hf
    obtain ⟨d, hd, rfl⟩ := hf
    have hfind : c.find? (d.listing.invoked e) = some d :=
      find?_eq_some_iff.mpr ⟨List.mem_of_getElem? hd, isNamedBy_invoked d e⟩
    rw [hd]
    use hfind
    intro d' hd' hnamed
    rw [← hfind, find?_eq_some_iff]
    exact ⟨hd', hnamed⟩

end Catalogue

end InteractionRouting
