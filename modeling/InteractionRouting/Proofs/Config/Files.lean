import InteractionRouting.Config.Loader
import Mathlib.Tactic.Common

/-!
# Files that are read

A loader reads the file that was named, or, in the first of its folders that has a main file, that
and the file for the profile.  Of all files only those matter that are looked for: in a folder
before that one its main file, and nothing in a folder after it.
-/

namespace InteractionRouting.Config.Loader

/-- The files that are read: the one that was named; none, if no folder has a main file; or, in the
first folder that has one, the file for the profile, if it is there, and the main file. -/
inductive Files (l : Loader) (s : Surroundings) : List String → Prop where
  | named {path : String} (hfile : l.file = some path) (hthere : s.exists? path = true) :
      Files l s [path]
  | nowhere (hfile : l.file = none)
      (hnone : ∀ folder ∈ l.folders s, s.exists? (mainFile folder) = false) : Files l s []
  | found {before after : List String} {folder : String} (hfile : l.file = none)
      (hfolders : l.folders s = before ++ folder :: after)
      (hbefore : ∀ f ∈ before, s.exists? (mainFile f) = false)
      (hmain : s.exists? (mainFile folder) = true) :
      Files l s ((if s.exists? (l.profileFile folder) then [l.profileFile folder] else [])
        ++ [mainFile folder])

/-- The paths that a loader comes to are those of the files that are read. -/
theorem files_of_files_eq_ok {l : Loader} {s : Surroundings} {paths : List String}
    (h : l.files s = .ok paths) :
  Files l s paths
  := by
  rw [files] at h
  split at h
  · next path hfile =>
    split_ifs at h with hthere
    rw [← Except.ok.inj h]
    exact .named hfile hthere
  · next hfile =>
    split at h
    · next hfind =>
      rw [← Except.ok.inj h]
      refine .nowhere hfile ?_
      intro folder hfolder
      simpa using List.find?_eq_none.mp hfind folder hfolder
    · next folder hfind =>
      obtain ⟨hmain, before, after, hfolders, hbefore⟩ := List.find?_eq_some_iff_append.mp hfind
      have hfiles : Files l s _ := .found hfile hfolders (by simpa using hbefore) hmain
      dsimp only at h
      split_ifs at h with hprofile
      · rw [if_pos hprofile] at hfiles
        rw [← Except.ok.inj h]
        exact hfiles
      · rw [if_neg hprofile] at hfiles
        rw [← Except.ok.inj h]
        exact hfiles

/-- A loader comes to the paths of the files that are read. -/
theorem Files.files_eq_ok {l : Loader} {s : Surroundings} {paths : List String}
    (h : Files l s paths) :
  l.files s = .ok paths
  := by
  rw [files]
  cases h with
  | named hfile hthere =>
    rw [hfile]
    exact if_pos hthere
  | nowhere hfile hnone =>
    have hfind : (l.folders s).find? (fun folder => s.exists? (mainFile folder)) = none := by
      simpa using hnone
    rw [hfile, hfind]
  | @found before after folder hfile hfolders hbefore hmain =>
    have hfind : (l.folders s).find? (fun folder => s.exists? (mainFile folder))
        = some folder := by
      rw [List.find?_eq_some_iff_append]
      exact ⟨hmain, before, after, hfolders, by simpa using hbefore⟩
    rw [hfile, hfind]
    dsimp only
    split_ifs with hprofile
    · rfl
    · rfl

/-- The layer of a file is what its text reads as. -/
theorem fileLayer_of_text {s : Surroundings} {path text : String}
    (hending : Path.ending path = "toml") (htext : s.text? path = some text) :
  fileLayer s path = .ok (Toml.parse text)
  := by
  rw [fileLayer, hending, htext]
  rfl

/-! ### What is looked for -/

/-- What is looked for among folders: the main file of each, up to the first folder that has one,
and the file for the profile in that folder. -/
def lookedForIn (l : Loader) (s : Surroundings) : List String → List String
  | [] => []
  | folder :: rest =>
    if s.exists? (mainFile folder) then [mainFile folder, l.profileFile folder]
    else mainFile folder :: l.lookedForIn s rest

/-- The paths at which a file is looked for. -/
def lookedFor (l : Loader) (s : Surroundings) : List String :=
  match l.file with
  | some path => [path]
  | none => l.lookedForIn s (l.folders s)

/-- The first folder that has a main file, and whether it has a file for the profile, depend on
nothing but the files that are looked for. -/
theorem find?_congr_of_lookedForIn {l : Loader} {s s' : Surroundings} {folders : List String}
    (h : ∀ path ∈ l.lookedForIn s folders, s'.exists? path = s.exists? path) :
  folders.find? (fun folder => s'.exists? (mainFile folder))
      = folders.find? (fun folder => s.exists? (mainFile folder))
    ∧ ∀ folder ∈ folders.find? (fun folder => s.exists? (mainFile folder)),
      s'.exists? (l.profileFile folder) = s.exists? (l.profileFile folder)
  := by
  induction folders with
  | nil => exact ⟨rfl, nofun⟩
  | cons folder rest ih =>
    rw [lookedForIn] at h
    cases hmain : s.exists? (mainFile folder) with
    | true =>
      rw [hmain, if_pos rfl] at h
      have hmain' : s'.exists? (mainFile folder) = true := by
        rw [h _ List.mem_cons_self, hmain]
      rw [List.find?_cons, List.find?_cons, hmain, hmain']
      refine ⟨rfl, ?_⟩
      rintro _ ⟨⟩
      apply h
      simp
    | false =>
      rw [hmain, if_neg Bool.false_ne_true, List.forall_mem_cons] at h
      have hmain' : s'.exists? (mainFile folder) = false := by
        rw [h.1, hmain]
      rw [List.find?_cons, List.find?_cons, hmain, hmain']
      apply ih h.2

section

variable {l : Loader} {s : Surroundings} {f : FileSystem}

/-- Which files are read depends on nothing but the files that are looked for. -/
theorem files_congr
    (h : ∀ path ∈ l.lookedFor s, { s with fileSystem := f }.exists? path = s.exists? path) :
  l.files { s with fileSystem := f } = l.files s
  := by
  rw [files, files]
  rw [lookedFor] at h
  cases hfile : l.file with
  | some path =>
    rw [hfile] at h
    dsimp only
    rw [h path (List.mem_singleton_self path)]
  | none =>
    rw [hfile] at h
    obtain ⟨hfind, hprofile⟩ := find?_congr_of_lookedForIn h
    have hfolders : l.folders { s with fileSystem := f } = l.folders s := rfl
    dsimp only
    rw [hfolders, hfind]
    cases hfound : (l.folders s).find? fun folder => s.exists? (mainFile folder) with
    | none => rfl
    | some folder =>
      dsimp only
      rw [hprofile folder hfound]

/-- What is loaded depends on nothing but which of the files that are looked for are there, and on
the texts of those that are read. -/
theorem load_congr
    (h : ∀ path ∈ l.lookedFor s, { s with fileSystem := f }.exists? path = s.exists? path)
    (htext : ∀ paths, l.files s = .ok paths → ∀ path ∈ paths,
      { s with fileSystem := f }.text? path = s.text? path) :
  l.load { s with fileSystem := f } = l.load s
  := by
  have hlayers : l.layers { s with fileSystem := f } = l.layers s := by
    rw [layers, layers, files_congr h]
    cases hfiles : l.files s with
    | error e => rfl
    | ok paths =>
      have hmapM :
          paths.mapM (fileLayer { s with fileSystem := f }) = paths.mapM (fileLayer s) := by
        have htext := htext paths hfiles
        clear hfiles
        induction paths with
        | nil => rfl
        | cons path paths ih =>
          obtain ⟨hpath, hpaths⟩ := List.forall_mem_cons.mp htext
          rw [List.mapM_cons, List.mapM_cons, ih hpaths, fileLayer, fileLayer, hpath]
      change (paths.mapM (fileLayer { s with fileSystem := f }) >>= _)
        = (paths.mapM (fileLayer s) >>= _)
      rw [hmapM]
  rw [load, load, hlayers]

end

end InteractionRouting.Config.Loader
