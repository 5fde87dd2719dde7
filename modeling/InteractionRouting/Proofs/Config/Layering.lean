import InteractionRouting.Proofs.Config.Files
import InteractionRouting.Proofs.Config.Settings
import Mathlib.Data.List.Forall2
import Mathlib.Data.List.Induction
import Mathlib.Data.Set.List

/-!
# The layers of a configuration

Whatever was asked of a loader, and whatever files and variables there are: each setting of the
configuration that is loaded is that of the last layer that has it.  The layers are those of the
defaults, of the configurations that were merged in, of the files that are read, of the variables,
and of single settings.  Of all files only those matter that are looked for before a main file is
found, and beside it.
-/

namespace InteractionRouting.Config

open Wire

namespace Loader

/-! ### What is asked of a loader -/

/-- What is asked of a loader before it loads. -/
inductive Call where
  | merge (config : Config)
  | set (key : String) (v : Json)
  | profile (name : String)
  | searchPath (folder : String)
  | file (path : String)
  | withoutVariables

namespace Call

/-- What is asked of a loader is done to it. -/
def apply (l : Loader) : Call → Loader
  | merge c => l.merge c
  | set key v => l.set key v
  | profile name => l.withProfile name
  | searchPath folder => l.searching folder
  | file path => l.ofFile path
  | withoutVariables => l.withoutVariables

/-- The configuration that is merged in. -/
def merged? : Call → Option Config
  | merge c => some c
  | _ => none

/-- The single setting that is made, under its key. -/
def setting? : Call → Option (String × Json)
  | set key v => some (key, v)
  | _ => none

/-- The profile that is chosen. -/
def profile? : Call → Option Profile
  | profile name => some (.ofName name)
  | _ => none

/-- The folder that is searched. -/
def folder? : Call → Option String
  | searchPath folder => some folder
  | _ => none

/-- The file that is named. -/
def file? : Call → Option String
  | file path => some path
  | _ => none

/-- Whether variables are left out from here on. -/
def hidesVariables : Call → Bool
  | withoutVariables => true
  | _ => false

end Call

/-- The loader of which everything was asked, in order. -/
def configured (s : Surroundings) (calls : List Call) : Loader :=
  calls.foldl Call.apply (standard s)

/-- Configurations, folders and single settings are kept in the order in which they came; of
profiles and files the last one counts. -/
theorem configured_eq (s : Surroundings) (calls : List Call) :
  configured s calls =
    { merged := calls.filterMap Call.merged?
      profile := (calls.filterMap Call.profile?).getLast?.getD (.ofVariables s.environment)
      searched := calls.filterMap Call.folder?
      file := (calls.filterMap Call.file?).getLast?
      readsVariables := !calls.any Call.hidesVariables
      settings := calls.filterMap Call.setting? }
  := by
  induction calls using List.reverseRecOn with
  | nil => rfl
  | append_singleton calls call ih =>
    rw [configured, List.foldl_concat, ← configured, ih]
    simp only [List.filterMap_append, List.getLast?_append, List.any_append]
    cases call with
    | merge c => simp [Call.apply, Loader.merge, Call.merged?, Call.setting?, Call.profile?,
        Call.folder?, Call.file?, Call.hidesVariables]
    | set key v => simp [Call.apply, Loader.set, Call.merged?, Call.setting?, Call.profile?,
        Call.folder?, Call.file?, Call.hidesVariables]
    | profile name => simp [Call.apply, Loader.withProfile, Call.merged?, Call.setting?,
        Call.profile?, Call.folder?, Call.file?, Call.hidesVariables]
    | searchPath folder => simp [Call.apply, Loader.searching, Call.merged?, Call.setting?,
        Call.profile?, Call.folder?, Call.file?, Call.hidesVariables]
    | file path => simp [Call.apply, Loader.ofFile, Call.merged?, Call.setting?, Call.profile?,
        Call.folder?, Call.file?, Call.hidesVariables]
    | withoutVariables => simp [Call.apply, Loader.withoutVariables, Call.merged?, Call.setting?,
        Call.profile?, Call.folder?, Call.file?, Call.hidesVariables]

/-! ### Layers -/

/-- The layers of a loader, from the lowest to the highest, given those of the files and of the
single settings: the defaults come first, then the configurations that were merged in, the files,
every variable by itself, unless they are hidden, and every single setting by itself. -/
def separate (l : Loader) (s : Surroundings) (fileLayers settingLayers : List Json) : List Json :=
  [Config.codec.encode .standard] ++ l.merged.map Config.codec.encode ++ fileLayers
    ++ (if l.readsVariables then s.environment.filterMap Variables.layerOf? else [])
    ++ settingLayers

/-- The same layers, where some were added up before the others. -/
def grouped (l : Loader) (s : Surroundings) (fileLayers settingLayers : List Json) : List Json :=
  [Config.codec.encode .standard] ++ [stack (l.merged.map Config.codec.encode)] ++ fileLayers
    ++ (if l.readsVariables then [s.environment.layer] else []) ++ [stack settingLayers]

/-- The files that are read have these layers, and so have the single settings. -/
structure Reads (l : Loader) (s : Surroundings) (paths : List String)
    (fileLayers settingLayers : List Json) : Prop where
  files : Files l s paths
  fileLayers : List.Forall₂ (fun path v => fileLayer s path = .ok (some v)) paths fileLayers
  settingLayers : List.Forall₂ (fun entry v => settingLayer entry = some v) l.settings settingLayers

/-- What the layers are depends on nothing but the loader and what it finds. -/
theorem Reads.unique {l : Loader} {s : Surroundings} {paths paths' : List String}
    {fileLayers fileLayers' settingLayers settingLayers' : List Json}
    (h : l.Reads s paths fileLayers settingLayers)
    (h' : l.Reads s paths' fileLayers' settingLayers') :
  paths = paths' ∧ fileLayers = fileLayers' ∧ settingLayers = settingLayers'
  := by
  obtain rfl : paths = paths' :=
    Except.ok.inj (h.files.files_eq_ok.symm.trans h'.files.files_eq_ok)
  refine ⟨rfl, List.right_unique_forall₂' ?_ h.fileLayers h'.fileLayers,
    List.right_unique_forall₂' ?_ h.settingLayers h'.settingLayers⟩
  · intro path v v' hv hv'
    exact Option.some.inj (Except.ok.inj (hv.symm.trans hv'))
  · intro entry v v' hv hv'
    exact Option.some.inj (hv.symm.trans hv')

/-- All items have values exactly if there is a list of them, item by item. -/
theorem mapM_eq_some_iff {α β : Type} {f : α → Option β} {l : List α} {values : List β} :
  l.mapM f = some values ↔ List.Forall₂ (fun a b => f a = some b) l values
  := by
  induction l generalizing values with
  | nil =>
    rw [List.forall₂_nil_left_iff, List.mapM_nil]
    exact ⟨fun h => (Option.some.inj h).symm, fun h => congrArg some h.symm⟩
  | cons a l ih =>
    rw [List.mapM_cons, List.forall₂_cons_left_iff]
    constructor
    · intro h
      obtain ⟨b, hb, h⟩ := Option.bind_eq_some_iff.mp h
      obtain ⟨rest, hrest, h⟩ := Option.bind_eq_some_iff.mp h
      exact ⟨b, rest, hb, ih.mp hrest, (Option.some.inj h).symm⟩
    · rintro ⟨b, rest, hb, hrest, rfl⟩
      rw [hb, ih.mpr hrest]
      rfl

/-- All items are there exactly if they are the items of a list. -/
theorem mapM_id_eq_some_iff {α : Type} {l : List (Option α)} {values : List α} :
  l.mapM id = some values ↔ l = values.map some
  := by
  rw [mapM_eq_some_iff, ← List.forall₂_eq_eq_eq, List.forall₂_map_right_iff]
  rfl

/-- When a configuration is loaded all layers were read, the configuration is what they add up to,
and nothing is wrong with it. -/
theorem exists_layers_of_load {l : Loader} {s : Surroundings} {c : Config}
    (h : l.load s = .ok c) :
  ∃ paths fileLayers settingLayers, l.Reads s paths fileLayers settingLayers
    ∧ Config.codec.decode .layered (stack (l.grouped s fileLayers settingLayers)) = .ok c
    ∧ c.violation? = none
  := by
  rw [load] at h
  obtain ⟨layers, hlayers, h⟩ := exists_of_bind_eq_ok h
  obtain ⟨c', hextract, hcheck⟩ := exists_of_bind_eq_ok h
  obtain ⟨hvalid, rfl⟩ : c.violation? = none ∧ c' = c := by
    rw [check] at hcheck
    split at hcheck
    · contradiction
    · next hvalid =>
      obtain rfl := Except.ok.inj hcheck
      exact ⟨hvalid, rfl⟩
  obtain ⟨paths, hfiles, hlayers⟩ := exists_of_bind_eq_ok hlayers
  obtain ⟨optional, hoptional, hlayers⟩ := exists_of_bind_eq_ok hlayers
  rw [extract] at hextract
  split at hextract
  · contradiction
  · next values hvalues =>
    have hall := mapM_id_eq_some_iff.mp hvalues
    rw [← Except.ok.inj hlayers] at hall
    have hsome (o : Option Json) (ho : o ∈ values.map some) : o.isSome = true := by
      obtain ⟨v, -, rfl⟩ := List.mem_map.mp ho
      rfl
    rw [← hall] at hsome
    simp only [List.mem_append, or_imp, forall_and] at hsome
    obtain ⟨⟨⟨-, hfileLayers⟩, -⟩, hsettings⟩ := hsome
    obtain ⟨fileLayers, rfl⟩ : optional ∈ Set.range (List.map some) := by
      rw [Set.range_list_map]
      intro o ho
      obtain ⟨v, hv⟩ := Option.isSome_iff_exists.mp (hfileLayers o ho)
      exact ⟨v, hv.symm⟩
    obtain ⟨v, hv⟩ := Option.isSome_iff_exists.mp (hsettings _ (List.mem_singleton_self _))
    obtain ⟨settingLayers, hsettingLayers, rfl⟩ := Option.map_eq_some_iff.mp hv
    rw [hsettingLayers, Option.map_some, ← List.map_singleton (f := some), ← List.map_append,
      ← List.map_append, ← List.map_append] at hall
    have hgrouped := List.map_injective_iff.mpr (Option.some_injective Json) hall
    have hreads : l.Reads s paths fileLayers settingLayers := by
      refine ⟨files_of_files_eq_ok hfiles, ?_, mapM_eq_some_iff.mp hsettingLayers⟩
      apply List.forall₂_map_right_iff.mp (mapM_eq_ok_iff.mp hoptional)
    refine ⟨paths, fileLayers, settingLayers, hreads, ?_, hvalid⟩
    · split at hextract
      · contradiction
      · next c' hdecode =>
        rw [← Except.ok.inj hextract, ← hdecode, ← hgrouped]
        rfl

/-- A configuration is loaded as soon as all layers read, add up to it, and nothing is wrong with
it. -/
theorem load_of_reads {l : Loader} {s : Surroundings} {paths : List String}
    {fileLayers settingLayers : List Json} {c : Config}
    (h : l.Reads s paths fileLayers settingLayers)
    (hdecode : Config.codec.decode .layered (stack (l.grouped s fileLayers settingLayers)) = .ok c)
    (hvalid : c.violation? = none) :
  l.load s = .ok c
  := by
  have hmapM : paths.mapM (fileLayer s) = .ok (fileLayers.map some) := by
    rw [mapM_eq_ok_iff, List.forall₂_map_right_iff]
    apply h.fileLayers
  have hlayers : l.layers s = .ok ((l.grouped s fileLayers settingLayers).map some) := by
    rw [layers, h.files.files_eq_ok]
    change (paths.mapM (fileLayer s) >>= _) = _
    rw [hmapM, mapM_eq_some_iff.mpr h.settingLayers, grouped]
    simp only [List.map_append]
    rfl
  have hextract : extract ((l.grouped s fileLayers settingLayers).map some) = .ok c := by
    rw [extract, mapM_id_eq_some_iff.mpr rfl]
    dsimp only
    rw [hdecode]
  rw [load, hlayers]
  change (extract _ >>= check) = _
  rw [hextract]
  change check c = _
  rw [check, hvalid]

/-- What holds of every value that an item has holds of all values of the items. -/
theorem forall_mem_of_forall₂ {α β : Type} {R : α → β → Prop} {P : β → Prop} {l : List α}
    {values : List β} (h : List.Forall₂ R l values) (hP : ∀ a ∈ l, ∀ b, R a b → P b) :
  ∀ b ∈ values, P b
  := by
  induction h with
  | nil => nofun
  | cons hR _ ih =>
    rw [List.forall_mem_cons] at hP ⊢
    exact ⟨hP.1 _ hR, ih hP.2⟩

section

variable {l : Loader} {s : Surroundings} {paths path : List String}
  {fileLayers settingLayers : List Json}

/-- All layers are objects, and none repeats a key. -/
theorem Reads.isLayer (h : l.Reads s paths fileLayers settingLayers)
    (hkeys : ∀ entry ∈ l.settings, entry.2.HasDistinctKeys) :
  ∀ v ∈ l.separate s fileLayers settingLayers, IsLayer v
  := by
  simp only [separate, List.forall_mem_append, List.forall_mem_singleton, List.forall_mem_map]
  refine ⟨⟨⟨⟨isLayer_encode _, fun c _ => isLayer_encode c⟩, ?_⟩, ?_⟩, ?_⟩
  · apply forall_mem_of_forall₂ h.fileLayers fun _ _ _ => isLayer_of_fileLayer
  · cases l.readsVariables with
    | true =>
      intro v hv
      obtain ⟨entry, -, hentry⟩ := List.mem_filterMap.mp hv
      apply Variables.isLayer_of_layerOf? hentry
    | false => nofun
  · apply forall_mem_of_forall₂ h.settingLayers fun entry hentry _ =>
      isLayer_of_settingLayer (hkeys entry hentry)

/-- Of all layers only those of files, variables and single settings can have a table where the
schema has none. -/
theorem fits_separate (hfiles : ∀ v ∈ fileLayers, Fits v)
    (hvariables : ∀ v ∈ s.environment.filterMap Variables.layerOf?, Fits v)
    (hsettings : ∀ v ∈ settingLayers, Fits v) :
  ∀ v ∈ l.separate s fileLayers settingLayers, Fits v
  := by
  simp only [separate, List.forall_mem_append, List.forall_mem_singleton, List.forall_mem_map]
  refine ⟨⟨⟨⟨fits_encode _, fun c _ => fits_encode c⟩, hfiles⟩, ?_⟩, hsettings⟩
  cases l.readsVariables with
  | true => exact hvariables
  | false => nofun

/-- It does not matter that some layers are added up before the others. -/
theorem provides_grouped (hpath : path ≠ [])
    (h : ∀ v ∈ l.separate s fileLayers settingLayers, Provides path v) :
  (∀ v ∈ l.grouped s fileLayers settingLayers, Provides path v)
    ∧ lastGiven path (l.grouped s fileLayers settingLayers)
      = lastGiven path (l.separate s fileLayers settingLayers)
  := by
  simp only [separate, List.forall_mem_append, List.forall_mem_singleton] at h
  obtain ⟨⟨⟨⟨hstandard, hmerged⟩, hfiles⟩, hvariables⟩, hsettings⟩ := h
  obtain ⟨key, rest, rfl⟩ := List.exists_cons_of_ne_nil hpath
  have hgiven : (∀ v ∈ if l.readsVariables then [s.environment.layer] else [],
        Provides (key :: rest) v)
      ∧ lastGiven (key :: rest) (if l.readsVariables then [s.environment.layer] else [])
        = lastGiven (key :: rest)
          (if l.readsVariables then s.environment.filterMap Variables.layerOf? else []) := by
    cases hreads : l.readsVariables with
    | true =>
      rw [hreads, if_pos rfl] at hvariables
      rw [if_pos rfl, if_pos rfl, List.forall_mem_singleton]
      exact ⟨(provides_stack hvariables).1, lastGiven_stack hvariables⟩
    | false => exact ⟨nofun, rfl⟩
  constructor
  · simp only [grouped, List.forall_mem_append, List.forall_mem_singleton]
    exact ⟨⟨⟨⟨hstandard, (provides_stack hmerged).1⟩, hfiles⟩, hgiven.1⟩,
      (provides_stack hsettings).1⟩
  · simp only [grouped, separate, lastGiven_append, lastGiven_stack hmerged,
      lastGiven_stack hsettings, hgiven.2]

end

/-! ### Three folders -/

namespace ThreeFolders

def profileText : String := "[logging]\nlevel = \"error\"\nthread_ids = true"

def mainText : String := "[logging]\nlevel = \"warn\"\n[logging.filters]\nrpc = \"debug\""

/-- The first and the last folder lie in the one the process works in, the second lies elsewhere.
The first has a file for the profile only, and the last has a main file too. -/
def surroundings : Surroundings where
  fileSystem :=
    { files := [(⟨["srv", "app", "a", "switchboard.production.toml"]⟩,
          "[dispatch]\nevent_buffer = 1"),
        (⟨["etc", "app", "switchboard.production.toml"]⟩, profileText),
        (⟨["etc", "app", "switchboard.toml"]⟩, mainText),
        (⟨["srv", "app", "c", "switchboard.toml"]⟩, "[dispatch]\nevent_buffer = 2")]
      folders := [⟨["srv"]⟩, ⟨["srv", "app"]⟩, ⟨["srv", "app", "a"]⟩, ⟨["srv", "app", "c"]⟩,
        ⟨["etc"]⟩, ⟨["etc", "app"]⟩] }
  here := ⟨["srv", "app"]⟩
  userFolder := some "/home/ann/.config"
  environment := [("SWITCHBOARD_PROFILE", "prod")]

def calls : List Call :=
  [.searchPath "a", .searchPath "/etc/app", .set "logging.filters.rpc" (.string "error"),
    .merge { Config.standard with dispatch := ⟨64, false⟩ }, .searchPath "c"]

def paths : List String := ["/etc/app/switchboard.production.toml", "/etc/app/switchboard.toml"]

def fileLayers : List Json :=
  [.object [("logging", .object [("level", .string "error"), ("thread_ids", .bool true)])],
    .object [("logging",
      .object [("level", .string "warn"), ("filters", .object [("rpc", .string "debug")])])]]

def settingLayers : List Json :=
  [.object [("logging", .object [("filters", .object [("rpc", .string "error")])])]]

/-- The second folder is the first that has a main file, and it has a file for the profile, too. -/
theorem files_eq :
  (configured surroundings calls).files surroundings = .ok paths
  := by
  simp only [files, Surroundings.exists?, FileSystem.exists?, FileSystem.placeFrom?,
    Text.splitOn_slash]
  decide +kernel

/-- The single setting is a layer with three tables, one in the other. -/
theorem settingLayer_eq :
  settingLayer ("logging.filters.rpc", .string "error")
    = some (.object [("logging", .object [("filters", .object [("rpc", .string "error")])])])
  := by
  have hsplit := Text.splitOn_singleton "logging.filters.rpc" '.'
  have hkeys : settingKeys "logging.filters.rpc" = ["logging", "filters", "rpc"] := by
    apply (congrArg (List.takeWhile fun k => !k.isEmpty) hsplit).trans
    decide +kernel
  rw [settingLayer, hkeys]
  rfl

/-- The variable that selects the profile is no setting. -/
theorem layers_of_variables :
  surroundings.environment.filterMap Variables.layerOf? = []
  := by
  have hkeys : Variables.keys? "SWITCHBOARD_PROFILE" = none := by
    decide +kernel
  rw [surroundings, List.filterMap_cons, Variables.layerOf?, hkeys]
  rfl

/-- Both files of the second folder are read, and the single setting is. -/
theorem reads :
  (configured surroundings calls).Reads surroundings paths fileLayers settingLayers
  := by
  have hending : ∀ path ∈ paths, Path.ending path = "toml" := by
    simp only [Path.ending, Path.name?, Path.steps, Text.splitOn_slash]
    decide +kernel
  have htexts : List.Forall₂ (fun path text => surroundings.text? path = some text)
      paths [profileText, mainText] := by
    simp only [Surroundings.text?, FileSystem.text?, FileSystem.placeFrom?, Text.splitOn_slash]
    decide +kernel
  rw [paths, List.forall_mem_cons, List.forall_mem_singleton] at hending
  obtain _ | ⟨hprofile, _ | ⟨hmain, -⟩⟩ := htexts
  refine ⟨files_of_files_eq_ok files_eq, .cons ?_ (.cons ?_ .nil), .cons settingLayer_eq .nil⟩
  · rw [fileLayer_of_text hending.1 hprofile]
    decide +kernel
  · rw [fileLayer_of_text hending.2 hmain]
    decide +kernel

def loaded : Config where
  logging :=
    { Logging.standard with level := .warn, threadIds := true, filters := .ofList [("rpc", .error)] }
  dispatch := ⟨64, false⟩
  registration := .standard

/-- The single setting counts more than the main file, that counts more than the file for the
profile, and that one counts more than the defaults. -/
theorem load_eq :
  (configured surroundings calls).load surroundings = .ok loaded
  := by
  apply load_of_reads reads
  · rw [grouped, Variables.layer, layers_of_variables]
    rfl
  · decide

/-- The second folder alone. -/
def second : FileSystem where
  files := [(⟨["etc", "app", "switchboard.production.toml"]⟩, profileText),
    (⟨["etc", "app", "switchboard.toml"]⟩, mainText)]
  folders := [⟨["etc"]⟩, ⟨["etc", "app"]⟩]

/-- Where something is looked for, it is there exactly if it is in the second folder. -/
theorem exists_second :
  ∀ path ∈ (configured surroundings calls).lookedFor surroundings,
    { surroundings with fileSystem := second }.exists? path = surroundings.exists? path
  := by
  have hfirst : surroundings.exists? (mainFile "a") = false := by
    rw [Surroundings.exists?, FileSystem.exists?, FileSystem.placeFrom?, Text.splitOn_slash]
    decide +kernel
  have hsecond : surroundings.exists? (mainFile "/etc/app") = true := by
    rw [Surroundings.exists?, FileSystem.exists?, FileSystem.placeFrom?, Text.splitOn_slash]
    decide +kernel
  have hfolders : (configured surroundings calls).lookedFor surroundings
      = (configured surroundings calls).lookedForIn surroundings ["a", "/etc/app", "c"] := rfl
  rw [hfolders, lookedForIn, if_neg (by rw [hfirst]; exact Bool.false_ne_true), lookedForIn,
    if_pos hsecond]
  simp only [Surroundings.exists?, FileSystem.exists?, FileSystem.placeFrom?, Text.splitOn_slash]
  decide +kernel

/-- The files that are read have the same texts where there is nothing but the second folder. -/
theorem text_second :
  ∀ path ∈ paths,
    { surroundings with fileSystem := second }.text? path = surroundings.text? path
  := by
  simp only [Surroundings.text?, FileSystem.text?, FileSystem.placeFrom?, Text.splitOn_slash]
  decide +kernel

end ThreeFolders

/-! ### Loading -/

/-- What is checked of a configuration. -/
theorem violation?_eq_none_iff {c : Config} :
  c.violation? = none
    ↔ (c.logging.output = .file → c.logging.filePath ≠ none)
      ∧ (∀ module ∈ c.logging.filters.keys, Text.allBlank module = false)
      ∧ c.dispatch.eventBuffer ≠ 0
  := by
  rw [violation?, Option.or_eq_none_iff, Logging.violation?, ite_eq_right_iff]
  by_cases hfile : c.logging.output = .file ∧ c.logging.filePath = none
  · simp [hfile]
  · rw [if_neg hfile, Option.map_eq_none_iff, List.find?_eq_none]
    simp only [Bool.not_eq_true, reduceCtorEq, imp_false]
    rw [not_and] at hfile
    constructor
    · rintro ⟨hmodules, hbuffer⟩
      exact ⟨hfile, hmodules, hbuffer⟩
    · rintro ⟨-, hmodules, hbuffer⟩
      exact ⟨hmodules, hbuffer⟩

/-- Every configuration always has a setting at the end of some paths, for the defaults have one. -/
theorem isSome_lastGiven_separate {l : Loader} {s : Surroundings}
    {fileLayers settingLayers : List Json} {path : List String} (h : path ∈ scalarPaths) :
  (lastGiven path (l.separate s fileLayers settingLayers)).isSome = true
  := by
  rw [isSome_lastGiven_iff]
  use Config.codec.encode .standard
  exact ⟨by simp [separate], isSome_setting?_encode h .standard⟩

/-- Wherever there may be a setting, a configuration that is read from all layers together holds
that of the last layer that has one. -/
theorem setting?_encode_of_reads {l : Loader} {s : Surroundings} {paths : List String}
    {fileLayers settingLayers : List Json} {c : Config}
    (h : l.Reads s paths fileLayers settingLayers)
    (hkeys : ∀ entry ∈ l.settings, entry.2.HasDistinctKeys)
    (hfits : ∀ v ∈ l.separate s fileLayers settingLayers, Fits v)
    (hdecode : Config.codec.decode .layered (stack (l.grouped s fileLayers settingLayers)) = .ok c)
    {path : List String} (hpath : IsSetting path) :
  setting? path (Config.codec.encode c)
    = lastGiven path (l.separate s fileLayers settingLayers)
  := by
  have hlayers := h.isLayer hkeys
  have hgrouped {path : List String} (hpath : IsSetting path) :=
    provides_grouped hpath.ne_nil fun v hv => (hfits v hv).provides (hlayers v hv) hpath
  have hsum {path : List String} (hpath : IsSetting path) :
      Provides path (stack (l.grouped s fileLayers settingLayers))
        ∧ setting? path (stack (l.grouped s fileLayers settingLayers))
          = lastGiven path (l.separate s fileLayers settingLayers) := by
    obtain ⟨hprovides, hlast⟩ := hgrouped hpath
    obtain ⟨key, rest, rfl⟩ := List.exists_cons_of_ne_nil hpath.ne_nil
    rw [← hlast]
    apply provides_stack hprovides
  -- The table of levels is there in the defaults, so it is there in all layers together.
  have hfilters : (setting? ["logging", "filters"]
      (stack (l.grouped s fileLayers settingLayers))).isSome = true := by
    refine (isSome_setting?_stack ?_ ?_).2
    · intro v hv
      have hmodule : IsSetting ["logging", "filters", ""] := .inr ⟨"", rfl⟩
      have hprovides := (hgrouped hmodule).1 v hv
      have hleads : Leads (["logging", "filters"] ++ [""]) v := hprovides.leads
      exact ⟨hleads.of_append, hprovides.distinct⟩
    · rw [holds_filters.encode]
      rfl
  rw [setting?_encode_of_decode hdecode hpath (hsum hpath).1 ?_ hfilters, (hsum hpath).2]
  intro hscalar
  rw [(hsum hpath).2]
  apply isSome_lastGiven_separate hscalar

end Loader

end InteractionRouting.Config
