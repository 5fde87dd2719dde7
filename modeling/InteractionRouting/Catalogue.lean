import InteractionRouting.Command

/-!
# Catalogues of commands

A catalogue holds commands with distinct keys, in the order in which they came in.  It is
asked for the command that an envelope means, and compiled into a manifest.
-/

namespace InteractionRouting

/-- A command of the same key is there already. -/
structure DuplicateCommand where
  /-- The path of the command that was refused. -/
  path : String
deriving DecidableEq

def DuplicateCommand.message (e : DuplicateCommand) : String :=
  s!"command '{e.path}' is already registered"

/-- Commands with distinct keys. -/
structure Catalogue (η : Type) where
  commands : List (Command η)
  nodup : (commands.map Command.key).Nodup

namespace Catalogue

variable {η : Type}

/-- The catalogue without commands. -/
def empty : Catalogue η := ⟨[], by simp⟩

/-- Whether there is a command of the same key. -/
def contains (c : Catalogue η) (d : Command η) : Bool :=
  c.commands.any fun known => known.key = d.key

/-- A catalogue contains a command exactly if it has one of the same key. -/
theorem contains_iff {c : Catalogue η} {d : Command η} :
  c.contains d = true ↔ d.key ∈ c.commands.map Command.key
  := by
  simp [contains]

/-- Adds a command at the end, unless there is one of the same key. -/
def add (c : Catalogue η) (d : Command η) : Except DuplicateCommand (Catalogue η) :=
  if h : c.contains d then .error ⟨d.path⟩
  else
    .ok
      { commands := c.commands ++ [d]
        nodup := by
          rw [contains_iff] at h
          rw [List.map_append, List.map_singleton]
          apply List.nodup_append.mpr
          refine ⟨c.nodup, by simp, ?_⟩
          rintro a ha b hb rfl
          rw [List.mem_singleton] at hb
          exact h (hb ▸ ha) }

/-- Whether an envelope means a command: its name and kind are the command's, and so are
its groups. -/
def means (e : CommandEnvelope) (c : Command η) : Bool :=
  decide (c.name = e.name) && decide (c.kind = e.kind) &&
    match e.parentParentName, e.parentName with
    | some top, parent =>
      c.group.any fun g => decide (some g.name = parent) && decide (g.parentName? = some top)
    | none, some parent =>
      c.group.any fun g => decide (g.parentName? = none) && decide (g.name = parent)
    | none, none => c.group.isNone

/-- The command an envelope means. -/
def find? (c : Catalogue η) (e : CommandEnvelope) : Option (Command η) :=
  c.commands.find? (means e)

/-- What is registered of commands: each of them, and each group one of them is in, with
those groups inside it that one of them is in. -/
def manifestOf (commands : List (Command η)) : Manifest where
  commands := commands.map Command.listing
  groups := (commands.filterMap Command.group).foldl
    (fun groups g => Manifest.addGroup groups g.listing) []

/-- What is registered of a catalogue. -/
def compile (c : Catalogue η) : Manifest := manifestOf c.commands

end Catalogue

end InteractionRouting
