import InteractionRouting.Manifest
import InteractionRouting.Text.Shown

/-!
# Groups of commands

Groups are at most two levels deep: a group at the top may hold groups, and those hold
none.  A `Groups.Store` keeps the groups that were made, and remembers for each which groups
were made inside it.
-/

namespace InteractionRouting

/-- A group: one at the top, or one inside a group at the top. -/
inductive Group where
  | top (name description : String)
  | nested (parentName parentDescription name description : String)
deriving DecidableEq

namespace Group

def name : Group → String
  | top name _ => name
  | nested _ _ name _ => name

def description : Group → String
  | top _ description => description
  | nested _ _ _ description => description

/-- The name of the group it is in. -/
def parentName? : Group → Option String
  | top _ _ => none
  | nested parent _ _ _ => some parent

/-- The group it is in. -/
def parent? : Group → Option Group
  | top _ _ => none
  | nested name description _ _ => some (top name description)

/-- The group at the top: the one it is in, or itself. -/
def topLevel (g : Group) : Group := g.parent?.getD g

/-- Its name, after the name of the group it is in. -/
def path : Group → String
  | top name _ => name
  | nested parent _ name _ => s!"{parent} {name}"

/-- The group as it is registered when a command in it is. -/
def listing (g : Group) : Manifest.Group where
  name := g.topLevel.name
  description := g.topLevel.description
  subGroups :=
    match g with
    | top _ _ => []
    | nested _ _ name description => [⟨name, description⟩]

def describe (g : Group) : String :=
  Text.shown "Group" [("name", Text.quote g.name),
    ("parent", Text.shownOption (g.parentName?.map Text.quote))]

end Group

/-- Why a group cannot be made. -/
inductive GroupError where
  /-- The group it should be in is itself inside a group. -/
  | tooDeep (name parent : String)
  /-- The group it should be in has one of that name. -/
  | duplicate (name parent : String)
  /-- There is no group it could be in. -/
  | noParent (name : String)
deriving DecidableEq

def GroupError.message : GroupError → String
  | tooDeep name parent => s!"cannot create sub-group '{name}' inside sub-group '{parent}'"
  | duplicate name parent => s!"group '{parent}' already has a sub-group named '{name}'"
  | noParent name => s!"no group to create sub-group '{name}' in"

namespace Groups

/-- A group with the groups that were made inside it. -/
structure Cell where
  group : Group
  /-- The place of the group it is in. -/
  parent : Option Nat
  subGroups : List Manifest.SubGroup

/-- The groups that were made.  A group is known by its place in the list. -/
structure Store where
  cells : List Cell

namespace Store

/-- No groups. -/
def empty : Store := ⟨[]⟩

/-- What is kept of a group. -/
def cell? (s : Store) (g : Nat) : Option Cell := s.cells[g]?

/-- Makes a group at the top, and gives its place. -/
def create (s : Store) (name description : String) : Store × Nat :=
  (⟨s.cells ++ [⟨.top name description, none, []⟩]⟩, s.cells.length)

/-- Makes a group inside another, and gives its place. -/
def createIn (s : Store) (parent : Nat) (name description : String) :
    Except GroupError (Store × Nat) :=
  match s.cell? parent with
  | none => .error (.noParent name)
  | some cell =>
    match cell.group with
    | .nested _ _ parentName _ => .error (.tooDeep name parentName)
    | .top parentName parentDescription =>
      if cell.subGroups.any (·.name == name) then .error (.duplicate name parentName)
      else
        let known : Cell := { cell with subGroups := cell.subGroups ++ [⟨name, description⟩] }
        let made : Cell :=
          ⟨.nested parentName parentDescription name description, some parent, []⟩
        .ok (⟨s.cells.set parent known ++ [made]⟩, s.cells.length)

end Store

end Groups

end InteractionRouting
