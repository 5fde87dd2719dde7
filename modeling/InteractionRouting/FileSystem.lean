/-!
# File systems

Files with texts, and the folders they are in.  A path leads to one of them, from the root or from
the folder it is seen from.
-/

namespace InteractionRouting

namespace Path

/-- Whether a path starts from the root, wherever it is seen from. -/
def isAbsolute (path : String) : Bool := path.startsWith "/"

/-- The steps of a path: names, and two dots for the way up.  What leads nowhere else is
left out. -/
def steps (path : String) : List String :=
  (path.splitOn "/").filter fun s => s ≠ "" && s ≠ "."

/-- The name a path ends in, if it ends in a name. -/
def name? (path : String) : Option String :=
  (steps path).getLast?.filter fun s => s ≠ ".."

/-- The steps before the last. -/
def before (path : String) : List String := (steps path).dropLast

/-- What stands after the last dot of a name.  A name that only starts with a dot has no
ending. -/
def nameEnding (name : List Char) : List Char :=
  if (name.drop 1).contains '.' then (name.reverse.takeWhile (· ≠ '.')).reverse else []

/-- The ending of the name a path ends in. -/
def ending (path : String) : String :=
  match name? path with
  | some name => String.ofList (nameEnding name.toList)
  | none => ""

/-- The path of something in a folder. -/
def within (folder name : String) : String :=
  if folder = "" then name else s!"{folder}/{name}"

end Path

/-- A place in a file system, by the names that lead to it from the root. -/
structure Place where
  names : List String
deriving DecidableEq

namespace Place

def root : Place := ⟨[]⟩

/-- The path that leads to a place from the root. -/
def path (p : Place) : String := "/" ++ "/".intercalate p.names

/-- One step on, where two dots lead up.  There is nothing above the root. -/
def step (p : Place) (s : String) : Place :=
  if s = ".." then ⟨p.names.dropLast⟩ else ⟨p.names ++ [s]⟩

/-- The place that steps lead to. -/
def follow (p : Place) (steps : List String) : Place := steps.foldl step p

/-- Where a path starts that is seen from a folder. -/
def start (here : Place) (path : String) : Place := if Path.isAbsolute path then root else here

/-- The place itself and those above it, up to the root. -/
def upwards (p : Place) : List Place :=
  (List.range (p.names.length + 1)).reverse.map fun n => ⟨p.names.take n⟩

end Place

/-- The texts of files, and the folders there are besides the root. -/
structure FileSystem where
  files : List (Place × String)
  folders : List Place

namespace FileSystem

def empty : FileSystem := ⟨[], []⟩

/-- Adds the folders that steps lead through. -/
def addFolders (f : FileSystem) (p : Place) : List String → FileSystem
  | [] => f
  | s :: steps =>
    let next := p.step s
    addFolders { f with folders := next :: f.folders } next steps

/-- Adds a file at a path that is seen from a folder, and the folders that lead to it.  It takes
the place of a file that is there. -/
def add (here : Place) (f : FileSystem) (file : String × String) : FileSystem :=
  let start := here.start file.1
  let f := f.addFolders start (Path.before file.1)
  { f with files := (start.follow (Path.steps file.1), file.2) :: f.files }

/-- A folder, and files that are given by their paths as seen from it. -/
def around (here : Place) (files : List (String × String)) : FileSystem :=
  files.foldl (add here) (empty.addFolders .root here.names)

def hasFolder (f : FileSystem) (p : Place) : Bool := p = .root || f.folders.contains p

/-- Whether there is anything at a place. -/
def has (f : FileSystem) (p : Place) : Bool := f.hasFolder p || (f.files.lookup p).isSome

/-- One step on from a place, which has to be a folder. -/
def step? (f : FileSystem) (p : Place) (s : String) : Option Place :=
  if !f.hasFolder p then none
  else if s = "" ∨ s = "." then some p
  else if f.has (p.step s) then some (p.step s)
  else none

/-- The place that a path leads to from a place. -/
def placeFrom? (f : FileSystem) (start : Place) (path : String) : Option Place :=
  if path.isEmpty then none else (path.splitOn "/").foldlM f.step? start

/-- Whether a path that is seen from a folder leads to anything. -/
def exists? (f : FileSystem) (here : Place) (path : String) : Bool :=
  (f.placeFrom? (here.start path) path).isSome

/-- Where a file is looked for: from the root, or from the folder and then from those above it. -/
def starts (here : Place) (path : String) : List Place :=
  if Path.isAbsolute path then [.root] else here.upwards

/-- The text of the first file that a path leads to. -/
def text? (f : FileSystem) (here : Place) (path : String) : Option String :=
  (starts here path).findSome? fun start =>
    (f.placeFrom? start path).bind fun p => f.files.lookup p

end FileSystem

end InteractionRouting
