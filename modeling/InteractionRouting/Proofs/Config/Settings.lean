import InteractionRouting.Proofs.Config.Echoes
import InteractionRouting.Proofs.Config.Sources

/-!
# What configurations hold of a layer

A configuration that is read from a layer holds, at the end of each path of keys, what stands there
in the layer.  The paths are those of the schema: some lead to tables, and the others to single
settings, of which the levels of single modules may be as many as there are.
-/

namespace InteractionRouting

open Wire

/-! ### The schema -/

namespace Config

/-- Where a configuration has tables. -/
def tablePaths : List (List String) :=
  [["logging"], ["logging", "span_events"], ["logging", "filters"], ["dispatch"], ["commands"]]

/-- Where every configuration has a setting. -/
def scalarPaths : List (List String) :=
  [["logging", "level"], ["logging", "format"], ["logging", "output"], ["logging", "file_path"],
    ["logging", "rotation"], ["logging", "thread_ids"], ["logging", "file_location"],
    ["logging", "span_events", "new"], ["logging", "span_events", "enter"],
    ["logging", "span_events", "exit"], ["logging", "span_events", "close"],
    ["dispatch", "event_buffer"], ["dispatch", "spawn_per_event"],
    ["commands", "register_on_start"]]

/-- Where a configuration may have a setting: it always does, or it has the level of a module. -/
def IsSetting (path : List String) : Prop :=
  path ∈ scalarPaths ∨ ∃ module, path = ["logging", "filters", module]

/-- A layer has tables just where the schema has them.  What the schema does not know does not
count. -/
structure Fits (v : Json) : Prop where
  tables : ∀ path ∈ tablePaths, ∀ w ∈ setting? path v, ∃ fields, w = .object fields
  settings : ∀ path, IsSetting path → ∀ w ∈ setting? path v, ¬IsTable w

instance : DecidablePred fun v : Json => ∃ fields, v = .object fields
  | .object fields => isTrue ⟨fields, rfl⟩
  | .null | .bool _ | .int _ | .float _ | .string _ | .array _ => isFalse nofun

instance : DecidablePred IsTable
  | .object [(key, .string text)] =>
    decidable_of_iff (key ≠ "moment") <| by
      constructor
      · intro hkey
        refine ⟨⟨_, rfl⟩, fun cs h => hkey ?_⟩
        rw [Toml.moment] at h
        simp at h
        exact h.1
      · rintro ⟨-, h⟩ rfl
        apply h text.toList
        rw [Toml.moment, String.ofList_toList]
  | .object [] | .object [(_, .null)] | .object [(_, .bool _)] | .object [(_, .int _)]
  | .object [(_, .float _)] | .object [(_, .array _)] | .object [(_, .object _)]
  | .object (_ :: _ :: _) => isTrue ⟨⟨_, rfl⟩, nofun⟩
  | .null | .bool _ | .int _ | .float _ | .string _ | .array _ => isFalse (not_isTable nofun)

/-- Of all modules only those need to be looked at that the layer has a level for. -/
theorem fits_iff {v : Json} :
  Fits v ↔ (∀ path ∈ tablePaths, ∀ w ∈ setting? path v, ∃ fields, w = .object fields)
    ∧ (∀ path ∈ scalarPaths, ∀ w ∈ setting? path v, ¬IsTable w)
    ∧ ∀ filters ∈ setting? ["logging", "filters"] v, ∀ f ∈ filters.fields,
        ∀ w ∈ filters.get? f.1, ¬IsTable w
  := by
  have hmodule (module : String) (w : Json) : w ∈ setting? ["logging", "filters", module] v
      ↔ ∃ filters ∈ setting? ["logging", "filters"] v, w ∈ filters.get? module := by
    have happend := setting?_append ["logging", "filters"] [module] v
    rw [List.cons_append, List.cons_append, List.nil_append] at happend
    rw [happend, Option.mem_def, Option.bind_eq_some_iff]
    simp [setting?]
  constructor
  · intro h
    refine ⟨h.tables, fun path hpath => h.settings path (.inl hpath), ?_⟩
    intro filters hfilters f _ w hw
    apply h.settings _ (.inr ⟨f.1, rfl⟩) w
    rw [hmodule]
    exact ⟨filters, hfilters, hw⟩
  · rintro ⟨htables, hscalars, hfilters⟩
    refine ⟨htables, ?_⟩
    rintro path (hpath | ⟨module, rfl⟩) w hw
    · apply hscalars path hpath w hw
    · obtain ⟨filters, htable, hw⟩ := (hmodule module w).mp hw
      obtain ⟨before, after, hfields, -⟩ := List.lookup_eq_some_iff.mp hw
      apply hfilters filters htable (module, w) _ w hw
      rw [hfields]
      simp

instance : DecidablePred Fits := fun _ => decidable_of_iff _ fits_iff.symm

/-- Where a path to a setting does not end yet there is a table. -/
theorem IsSetting.mem_tablePaths {path q : List String} (h : IsSetting path) (hq : q <+: path)
    (hne : q ≠ path) :
  q = [] ∨ q ∈ tablePaths
  := by
  have hscalar : ∀ path ∈ scalarPaths, ∀ q ∈ path.inits, q ≠ path → q = [] ∨ q ∈ tablePaths := by
    decide
  rw [← List.mem_inits] at hq
  obtain h | ⟨module, rfl⟩ := h
  · apply hscalar path h q hq hne
  · simp only [List.inits, List.map_cons, List.map_nil, List.mem_cons, List.not_mem_nil,
      or_false] at hq
    obtain rfl | rfl | rfl | rfl := hq
    · left
      rfl
    · right
      decide
    · right
      decide
    · contradiction

theorem IsSetting.ne_nil {path : List String} (h : IsSetting path) :
  path ≠ []
  := by
  rintro rfl
  obtain h | ⟨module, h⟩ := h
  · revert h
    decide
  · contradiction

/-- A layer with the tables of the schema provides each of its settings, or nothing. -/
theorem Fits.provides {v : Json} (h : Fits v) (hlayer : IsLayer v) {path : List String}
    (hpath : IsSetting path) :
  Provides path v
  where
  leads := by
    rw [leads_iff]
    intro q hq hne w hw
    obtain rfl | hmem := hpath.mem_tablePaths hq hne
    · rw [← Option.some.inj hw]
      apply hlayer.object
    · apply h.tables q hmem w hw
  plain := h.settings path hpath
  distinct := hlayer.distinct

end Config

/-! ### Configurations -/

namespace Config

open Codec Record

/-- The events of a span are flags, each read of the field of its name. -/
theorem SpanEvents.readsFields {fields : List (String × Json)} {e : SpanEvents}
    (h : SpanEvents.fields.read .layered (locate fields) = .ok e) :
  flag.ReadsField fields "new" e.new ∧ flag.ReadsField fields "enter" e.enter
    ∧ flag.ReadsField fields "exit" e.exit ∧ flag.ReadsField fields "close" e.close
  := by
  obtain ⟨_, close, htoClose, hclose, rfl⟩ := exists_of_join_eq_ok h
  obtain ⟨_, exit, htoExit, hexit, rfl⟩ := exists_of_join_eq_ok htoClose
  obtain ⟨_, enter, htoEnter, henter, rfl⟩ := exists_of_join_eq_ok htoExit
  obtain ⟨new, hnew, rfl⟩ := exists_of_map_eq_ok htoEnter
  exact ⟨readsField_of_field hnew, readsField_of_field henter, readsField_of_field hexit,
    readsField_of_field hclose⟩

/-- What is set of the log is read setting by setting, each of the field of its name. -/
theorem Logging.readsFields {fields : List (String × Json)} {l : Logging}
    (h : Logging.fields.read .layered (locate fields) = .ok l) :
  (Level.naming.codec.ReadsField fields "level" l.level
      ∧ Format.naming.codec.ReadsField fields "format" l.format
      ∧ Output.naming.codec.ReadsField fields "output" l.output
      ∧ path.option.ReadsField fields "file_path" l.filePath
      ∧ Rotation.naming.codec.ReadsField fields "rotation" l.rotation)
    ∧ flag.ReadsField fields "thread_ids" l.threadIds
    ∧ flag.ReadsField fields "file_location" l.fileLocation
    ∧ SpanEvents.codec.ReadsField fields "span_events" l.spanEvents
    ∧ Level.naming.codec.table.ReadsField fields "filters" l.filters
  := by
  obtain ⟨_, filters, htoFilters, hfilters, rfl⟩ := exists_of_join_eq_ok h
  obtain ⟨_, spanEvents, htoSpanEvents, hspanEvents, rfl⟩ := exists_of_join_eq_ok htoFilters
  obtain ⟨_, fileLocation, htoFileLocation, hfileLocation, rfl⟩ := exists_of_join_eq_ok htoSpanEvents
  obtain ⟨_, threadIds, htoThreadIds, hthreadIds, rfl⟩ := exists_of_join_eq_ok htoFileLocation
  obtain ⟨_, rotation, htoRotation, hrotation, rfl⟩ := exists_of_join_eq_ok htoThreadIds
  obtain ⟨_, filePath, htoFilePath, hfilePath, rfl⟩ := exists_of_join_eq_ok htoRotation
  obtain ⟨_, output, htoOutput, houtput, rfl⟩ := exists_of_join_eq_ok htoFilePath
  obtain ⟨_, format, htoFormat, hformat, rfl⟩ := exists_of_join_eq_ok htoOutput
  obtain ⟨level, hlevel, rfl⟩ := exists_of_map_eq_ok htoFormat
  exact ⟨⟨readsField_of_field hlevel, readsField_of_field hformat, readsField_of_field houtput,
    readsField_of_field hfilePath, readsField_of_field hrotation⟩,
    readsField_of_field hthreadIds, readsField_of_field hfileLocation,
    readsField_of_field hspanEvents, readsField_of_field hfilters⟩

/-- What is set of the queue and its loop is read of two fields. -/
theorem Dispatch.readsFields {fields : List (String × Json)} {d : Dispatch}
    (h : Dispatch.fields.read .layered (locate fields) = .ok d) :
  size.ReadsField fields "event_buffer" d.eventBuffer
    ∧ flag.ReadsField fields "spawn_per_event" d.spawnPerEvent
  := by
  obtain ⟨_, spawnPerEvent, htoSpawnPerEvent, hspawnPerEvent, rfl⟩ := exists_of_join_eq_ok h
  obtain ⟨eventBuffer, heventBuffer, rfl⟩ := exists_of_map_eq_ok htoSpawnPerEvent
  exact ⟨readsField_of_field heventBuffer, readsField_of_field hspawnPerEvent⟩

/-- What is set of registration is read of one field. -/
theorem Registration.readsFields {fields : List (String × Json)} {r : Registration}
    (h : Registration.fields.read .layered (locate fields) = .ok r) :
  flag.ReadsField fields "register_on_start" r.onStart
  := by
  obtain ⟨onStart, honStart, rfl⟩ := exists_of_map_eq_ok h
  exact readsField_of_field honStart

/-- A configuration is read of three tables. -/
theorem readsFields {fields : List (String × Json)} {c : Config}
    (h : Config.fields.read .layered (locate fields) = .ok c) :
  Logging.codec.ReadsField fields "logging" c.logging
    ∧ Dispatch.codec.ReadsField fields "dispatch" c.dispatch
    ∧ Registration.codec.ReadsField fields "commands" c.registration
  := by
  obtain ⟨_, registration, htoRegistration, hregistration, rfl⟩ := exists_of_join_eq_ok h
  obtain ⟨_, dispatch, htoDispatch, hdispatch, rfl⟩ := exists_of_join_eq_ok htoRegistration
  obtain ⟨logging, hlogging, rfl⟩ := exists_of_map_eq_ok htoDispatch
  exact ⟨readsField_of_field hlogging, readsField_of_field hdispatch,
    readsField_of_field hregistration⟩

/-- A configuration holds what is set of the log. -/
theorem holds_logging :
  Config.codec.Holds ["logging"] Logging.codec (·.logging)
  := holds_field (fun h => (readsFields h).1) fun _ => rfl

/-- A configuration holds what is set of the queue and its loop. -/
theorem holds_dispatch :
  Config.codec.Holds ["dispatch"] Dispatch.codec (·.dispatch)
  := holds_field (fun h => (readsFields h).2.1) fun _ => rfl

/-- A configuration holds what is set of registration. -/
theorem holds_registration :
  Config.codec.Holds ["commands"] Registration.codec (·.registration)
  := holds_field (fun h => (readsFields h).2.2) fun _ => rfl

/-- A configuration holds the events of a span, inside what is set of the log. -/
theorem holds_spanEvents :
  Config.codec.Holds ["logging", "span_events"] SpanEvents.codec (·.logging.spanEvents)
  := holds_logging.trans (holds_field (fun h => (Logging.readsFields h).2.2.2.1) fun _ => rfl)

/-- A configuration holds the levels of modules, inside what is set of the log. -/
theorem holds_filters :
  Config.codec.Holds ["logging", "filters"] Level.naming.codec.table (·.logging.filters)
  := holds_logging.trans (holds_field (fun h => (Logging.readsFields h).2.2.2.2) fun _ => rfl)

/-- No name of a level is the word that a date is kept under. -/
theorem echoes_level :
  Level.naming.codec.Echoes
  := echoes_naming rfl (by decide) rfl

/-- At the end of each path to a setting stands a single value. -/
theorem exists_holds_of_mem_scalarPaths {path : List String} (h : path ∈ scalarPaths) :
  ∃ (β : Type) (d : Codec β) (get : Config → β),
    d.Echoes ∧ d.IsPlain ∧ Config.codec.Holds path d get
  := by
  have hlogging {β : Type} {d : Codec β} {get : Logging → β} {name : String}
      (hread : ∀ {fields : List (String × Json)} {l : Logging},
        Logging.fields.read .layered (locate fields) = .ok l → d.ReadsField fields name (get l))
      (hwrite : ∀ l, (Logging.fields.write l).lookup name = some (d.encode (get l))) :
      Config.codec.Holds ["logging", name] d (get ∘ (·.logging)) :=
    holds_logging.trans (holds_field hread hwrite)
  simp only [scalarPaths, List.mem_cons, List.not_mem_nil, or_false] at h
  obtain rfl | rfl | rfl | rfl | rfl | rfl | rfl | rfl | rfl | rfl | rfl | rfl | rfl | rfl := h
  · exact ⟨_, _, _, echoes_level, isPlain_naming _,
      hlogging (fun h => (Logging.readsFields h).1.1) fun _ => rfl⟩
  · exact ⟨_, _, _, echoes_naming rfl (by decide) rfl, isPlain_naming _,
      hlogging (fun h => (Logging.readsFields h).1.2.1) fun _ => rfl⟩
  · exact ⟨_, _, _, echoes_naming rfl (by decide) rfl, isPlain_naming _,
      hlogging (fun h => (Logging.readsFields h).1.2.2.1) fun _ => rfl⟩
  · exact ⟨_, _, _, echoes_option_path, isPlain_option_path,
      hlogging (fun h => (Logging.readsFields h).1.2.2.2.1) fun _ => rfl⟩
  · exact ⟨_, _, _, echoes_naming rfl (by decide) rfl, isPlain_naming _,
      hlogging (fun h => (Logging.readsFields h).1.2.2.2.2) fun _ => rfl⟩
  · exact ⟨_, _, _, echoes_flag, isPlain_flag,
      hlogging (fun h => (Logging.readsFields h).2.1) fun _ => rfl⟩
  · exact ⟨_, _, _, echoes_flag, isPlain_flag,
      hlogging (fun h => (Logging.readsFields h).2.2.1) fun _ => rfl⟩
  · exact ⟨_, _, _, echoes_flag, isPlain_flag, holds_spanEvents.trans
      (holds_field (fun h => (SpanEvents.readsFields h).1) fun _ => rfl)⟩
  · exact ⟨_, _, _, echoes_flag, isPlain_flag, holds_spanEvents.trans
      (holds_field (fun h => (SpanEvents.readsFields h).2.1) fun _ => rfl)⟩
  · exact ⟨_, _, _, echoes_flag, isPlain_flag, holds_spanEvents.trans
      (holds_field (fun h => (SpanEvents.readsFields h).2.2.1) fun _ => rfl)⟩
  · exact ⟨_, _, _, echoes_flag, isPlain_flag, holds_spanEvents.trans
      (holds_field (fun h => (SpanEvents.readsFields h).2.2.2) fun _ => rfl)⟩
  · exact ⟨_, _, _, echoes_size, isPlain_size, holds_dispatch.trans
      (holds_field (fun h => (Dispatch.readsFields h).1) fun _ => rfl)⟩
  · exact ⟨_, _, _, echoes_flag, isPlain_flag, holds_dispatch.trans
      (holds_field (fun h => (Dispatch.readsFields h).2) fun _ => rfl)⟩
  · exact ⟨_, _, _, echoes_flag, isPlain_flag, holds_registration.trans
      (holds_field (fun h => Registration.readsFields h) fun _ => rfl)⟩

/-- A configuration is written with every setting that it always has. -/
theorem isSome_setting?_encode {path : List String} (h : path ∈ scalarPaths) (c : Config) :
  (setting? path (Config.codec.encode c)).isSome = true
  := by
  obtain ⟨β, d, get, -, -, hholds⟩ := exists_holds_of_mem_scalarPaths h
  rw [hholds.encode]
  rfl

theorem setting?_singleton (key : String) (v : Json) :
  setting? [key] v = v.get? key
  := Option.bind_fun_some _

/-- The level of a module is found among the levels of all modules. -/
theorem setting?_filters (module : String) (v : Json) :
  setting? ["logging", "filters", module] v
    = (setting? ["logging", "filters"] v).bind (·.get? module)
  := by
  have happend := setting?_append ["logging", "filters"] [module] v
  simp only [funext (setting?_singleton module)] at happend
  exact happend

/-- The levels of modules as they are written. -/
theorem setting?_filters_encode (c : Config) (module : String) :
  setting? ["logging", "filters", module] (Config.codec.encode c)
    = (c.logging.filters.get? module).map fun l => .string l.name
  := by
  rw [setting?_filters, holds_filters.encode]
  change (c.logging.filters.entries.map fun e => (e.1, Json.string e.2.name)).lookup module
    = (c.logging.filters.entries.lookup module).map _
  induction c.logging.filters.entries with
  | nil => rfl
  | cons e rest ih =>
    rw [List.map_cons, Table.lookup_cons_eq, Table.lookup_cons_eq, ih]
    split_ifs
    · rfl
    · rfl

/-- A configuration that is read from a layer holds what stands at the end of each path to a setting
in it, if the layer has all settings that every configuration has. -/
theorem setting?_encode_of_decode {v : Json} {c : Config}
    (h : Config.codec.decode .layered v = .ok c) {path : List String} (hpath : IsSetting path)
    (hprovides : Provides path v)
    (hscalar : path ∈ scalarPaths → (setting? path v).isSome = true)
    (hfilters : (setting? ["logging", "filters"] v).isSome = true) :
  setting? path (Config.codec.encode c) = setting? path v
  := by
  obtain hpath | ⟨module, rfl⟩ := hpath
  · obtain ⟨β, d, get, hechoes, -, hholds⟩ := exists_holds_of_mem_scalarPaths hpath
    obtain ⟨u, hu⟩ := Option.isSome_iff_exists.mp (hscalar hpath)
    have hread := hholds.decode hprovides.leads hu h
    rw [hholds.encode, hu, hechoes (hprovides.plain u hu) hread]
  · obtain ⟨u, hu⟩ := Option.isSome_iff_exists.mp hfilters
    have hleads : Leads (["logging", "filters"] ++ [module]) v := hprovides.leads
    have hread := holds_filters.decode hleads.of_append hu h
    have hplain := hprovides.plain
    rw [setting?_filters, hu, Option.bind_some] at hplain
    rw [setting?_filters, setting?_filters, holds_filters.encode, hu]
    apply get?_encode_table echoes_level (hasDistinctKeys_of_setting? hprovides.distinct hu) hread
      hplain

/-! ### Configurations as layers -/

/-- What is set of the log is written without a repeated key. -/
theorem hasDistinctKeys_encode_logging (l : Logging) :
  (Logging.codec.encode l).HasDistinctKeys
  := by
  have hfilters : (Level.naming.codec.table.encode l.filters).HasDistinctKeys := by
    change (Json.object (l.filters.entries.map _)).HasDistinctKeys
    rw [Json.hasDistinctKeys_object_iff, List.map_map, List.forall_mem_map]
    use l.filters.nodup
    intro e _
    rfl
  change (Json.object [("level", Level.naming.codec.encode l.level),
    ("format", Format.naming.codec.encode l.format),
    ("output", Output.naming.codec.encode l.output),
    ("file_path", Codec.path.option.encode l.filePath),
    ("rotation", Rotation.naming.codec.encode l.rotation),
    ("thread_ids", Codec.flag.encode l.threadIds),
    ("file_location", Codec.flag.encode l.fileLocation),
    ("span_events", SpanEvents.codec.encode l.spanEvents),
    ("filters", Level.naming.codec.table.encode l.filters)]).HasDistinctKeys
  rw [Json.hasDistinctKeys_object_iff]
  constructor
  · simp
  · simp only [List.forall_mem_cons, List.not_mem_nil, false_imp_iff, implies_true, and_true]
    exact ⟨rfl, rfl, rfl, (isPlain_option_path _).2, rfl, rfl, rfl, rfl, hfilters⟩

/-- A configuration is written as a layer. -/
theorem isLayer_encode (c : Config) :
  IsLayer (Config.codec.encode c)
  := by
  use ⟨_, rfl⟩
  have hdispatch : (Dispatch.codec.encode c.dispatch).HasDistinctKeys := by
    change (Json.object [("event_buffer", Codec.size.encode c.dispatch.eventBuffer),
      ("spawn_per_event", Codec.flag.encode c.dispatch.spawnPerEvent)]).HasDistinctKeys
    rw [Json.hasDistinctKeys_object_iff]
    constructor
    · simp
    · simp only [List.forall_mem_cons, List.not_mem_nil, false_imp_iff, implies_true, and_true]
      exact ⟨(isPlain_size _).2, rfl⟩
  change (Json.object [("logging", Logging.codec.encode c.logging),
    ("dispatch", Dispatch.codec.encode c.dispatch),
    ("commands", Registration.codec.encode c.registration)]).HasDistinctKeys
  rw [Json.hasDistinctKeys_object_iff]
  constructor
  · simp
  · simp only [List.forall_mem_cons, List.not_mem_nil, false_imp_iff, implies_true, and_true]
    exact ⟨hasDistinctKeys_encode_logging c.logging, hdispatch, rfl⟩

/-- What a configuration is written as has the tables of the schema. -/
theorem fits_encode (c : Config) :
  Fits (Config.codec.encode c)
  := by
  constructor
  · intro path hpath w hw
    have htable : ∃ (β : Type) (d : Codec β) (get : Config → β),
        (∀ b, ∃ fields, d.encode b = .object fields) ∧ Config.codec.Holds path d get := by
      simp only [tablePaths, List.mem_cons, List.not_mem_nil, or_false] at hpath
      obtain rfl | rfl | rfl | rfl | rfl := hpath
      · exact ⟨_, _, _, fun _ => ⟨_, rfl⟩, holds_logging⟩
      · exact ⟨_, _, _, fun _ => ⟨_, rfl⟩, holds_spanEvents⟩
      · exact ⟨_, _, _, fun _ => ⟨_, rfl⟩, holds_filters⟩
      · exact ⟨_, _, _, fun _ => ⟨_, rfl⟩, holds_dispatch⟩
      · exact ⟨_, _, _, fun _ => ⟨_, rfl⟩, holds_registration⟩
    obtain ⟨β, d, get, hobject, hholds⟩ := htable
    rw [hholds.encode] at hw
    rw [← Option.some.inj hw]
    apply hobject
  · intro path hpath w hw
    obtain hpath | ⟨module, rfl⟩ := hpath
    · obtain ⟨β, d, get, -, hplain, hholds⟩ := exists_holds_of_mem_scalarPaths hpath
      rw [hholds.encode] at hw
      rw [← Option.some.inj hw]
      apply (hplain _).1
    · rw [setting?_filters_encode, Option.mem_def, Option.map_eq_some_iff] at hw
      obtain ⟨l, -, rfl⟩ := hw
      exact not_isTable nofun

end Config

end InteractionRouting
