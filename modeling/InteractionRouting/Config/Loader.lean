import InteractionRouting.Config.Basic
import InteractionRouting.Config.Variable
import InteractionRouting.FileSystem
import InteractionRouting.Text.LowerCase

/-!
# Loading configurations

A configuration is what its layers add up to.  From the lowest to the highest they are the
defaults, configurations that were merged in, a file for the profile, the main file, the
variables of the process, and single settings.
-/

namespace InteractionRouting.Config

/-- What the settings of a process are made for. -/
inductive Profile where
  | development
  | production
  | custom (name : String)
deriving DecidableEq

namespace Profile

def name : Profile → String
  | development => "development"
  | production => "production"
  | custom name => name

/-- The profile of a name, however its letters are written. -/
def ofName (name : String) : Profile :=
  let name := Text.lower name
  if name = "production" ∨ name = "prod" then production
  else if name = "development" ∨ name = "dev" then development
  else custom name

/-- The variable that chooses the profile. -/
def variableName : String := "SWITCHBOARD_PROFILE"

/-- The profile that is chosen by a variable. -/
def ofVariables (l : Variables) : Profile :=
  ((l.lookup variableName).map ofName).getD development

end Profile

/-- What a process finds around it. -/
structure Surroundings where
  fileSystem : FileSystem
  /-- The folder it works in. -/
  here : Place
  /-- The path of the folder with the configurations of the user, if there is one. -/
  userFolder : Option String
  /-- The variables of the process. -/
  environment : Variables

namespace Surroundings

/-- Whether a path leads to anything. -/
def exists? (s : Surroundings) (path : String) : Bool := s.fileSystem.exists? s.here path

/-- The text of the file that a path leads to. -/
def text? (s : Surroundings) (path : String) : Option String := s.fileSystem.text? s.here path

/-- The folders that are searched without being asked for. -/
def folders (s : Surroundings) : List String :=
  s.here.path :: (s.userFolder.map fun folder => Path.within folder "switchboard").toList

end Surroundings

/-- Why a configuration cannot be loaded. -/
inductive LoadError where
  /-- There is no such file. -/
  | noFile (path : String)
  /-- Files of this ending are not read. -/
  | unknownEnding (ending : String)
  /-- A layer does not read, or the layers do not add up to a configuration. -/
  | unreadable
  | invalid (violation : Violation)
deriving DecidableEq

def LoadError.message : LoadError → String
  | noFile path => s!"Configuration file not found: {path}"
  | unknownEnding ending => s!"Unsupported or disabled configuration file format: .{ending}"
  | unreadable => "Failed to extract configuration"
  | invalid violation => s!"Invalid configuration: {violation.message}"

/-- Where a configuration is to be loaded from. -/
structure Loader where
  /-- Configurations over the defaults. -/
  merged : List Config
  profile : Profile
  /-- Paths of folders to search for files; without any, the folder the process works in
  and the user's are searched. -/
  searched : List String
  /-- The path of the one file to read instead of searching. -/
  file : Option String
  readsVariables : Bool
  /-- Single settings over everything else, by their keys with dots between them. -/
  settings : List (String × Json)

namespace Loader

/-- Everything as it is found in some surroundings. -/
def standard (s : Surroundings) : Loader where
  merged := []
  profile := .ofVariables s.environment
  searched := []
  file := none
  readsVariables := true
  settings := []

def merge (l : Loader) (c : Config) : Loader := { l with merged := l.merged ++ [c] }

def withProfile (l : Loader) (name : String) : Loader := { l with profile := .ofName name }

def searching (l : Loader) (folder : String) : Loader :=
  { l with searched := l.searched ++ [folder] }

def ofFile (l : Loader) (path : String) : Loader := { l with file := some path }

def withoutVariables (l : Loader) : Loader := { l with readsVariables := false }

def set (l : Loader) (key : String) (v : Json) : Loader :=
  { l with settings := l.settings ++ [(key, v)] }

/-! ### Files -/

/-- The layer of a file; nothing when it does not read.  A path that leads to no file has an
empty layer. -/
def fileLayer (s : Surroundings) (path : String) :
    Except LoadError (Option Json) :=
  let ending := Path.ending path
  if ending ≠ "toml" then .error (.unknownEnding ending)
  else
    match s.text? path with
    | some text => .ok (Toml.parse text)
    | none => .ok (some (.object []))

/-- The path of the main file in a folder. -/
def mainFile (folder : String) : String := Path.within folder "switchboard.toml"

/-- The path of the file for the profile in a folder. -/
def profileFile (l : Loader) (folder : String) : String :=
  Path.within folder s!"switchboard.{l.profile.name}.toml"

/-- The folders that are searched. -/
def folders (l : Loader) (s : Surroundings) : List String :=
  if l.searched.isEmpty then s.folders else l.searched

/-- The paths of the files to read: the one that was named; otherwise, in the first folder
that has a main file, that and below it the file for the profile, if there is one. -/
def files (l : Loader) (s : Surroundings) : Except LoadError (List String) :=
  match l.file with
  | some path => if s.exists? path then .ok [path] else .error (.noFile path)
  | none =>
    match (l.folders s).find? fun folder => s.exists? (mainFile folder) with
    | none => .ok []
    | some folder =>
      let profileFile := l.profileFile folder
      if s.exists? profileFile then .ok [profileFile, mainFile folder]
      else .ok [mainFile folder]

/-! ### Loading -/

/-- The keys of a setting.  None counts from the first that is empty. -/
def settingKeys (key : String) : List String := (key.splitOn ".").takeWhile fun k => !k.isEmpty

/-- The layer of a single setting; nothing when it is not an object. -/
def settingLayer (entry : String × Json) : Option Json :=
  match nested (settingKeys entry.1) entry.2 with
  | .object fields => some (.object fields)
  | _ => none

/-- The layers of a loader, from the lowest to the highest, where those that do not read are
nothing. -/
def layers (l : Loader) (s : Surroundings) : Except LoadError (List (Option Json)) := do
  let files ← l.files s
  let fileLayers ← files.mapM (fileLayer s)
  let below := [Config.codec.encode .standard, stack (l.merged.map Config.codec.encode)]
  let given := if l.readsVariables then [s.environment.layer] else []
  return below.map some ++ fileLayers ++ given.map some ++
    [(l.settings.mapM settingLayer).map stack]

/-- Reads what layers add up to. -/
def extract (layers : List (Option Json)) : Except LoadError Config :=
  match layers.mapM id with
  | none => .error .unreadable
  | some layers =>
    match Config.codec.decode .layered (stack layers) with
    | .error _ => .error .unreadable
    | .ok c => .ok c

/-- Refuses a configuration in which something is wrong. -/
def check (c : Config) : Except LoadError Config :=
  match c.violation? with
  | some v => .error (.invalid v)
  | none => .ok c

/-- Loads a configuration. -/
def load (l : Loader) (s : Surroundings) : Except LoadError Config := do
  let layers ← l.layers s
  let c ← extract layers
  check c

end Loader

end InteractionRouting.Config
