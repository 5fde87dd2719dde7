import InteractionRouting.Config.Layer
import InteractionRouting.Proofs.Json.Shape
import InteractionRouting.Toml.Scalar
import Mathlib.Data.List.Basic
import Mathlib.Data.List.Induction
import Mathlib.Tactic.Common

/-!
# What layers add up to

Where a path of keys leads through tables in every layer and there is no table at its end, layers
add up to the setting of the last layer that has one there.  So it does not matter which layers
were added up before the others.
-/

namespace InteractionRouting

/-! ### Distinct keys -/

/-- In a value of a field no key is repeated if none is in the object. -/
theorem Json.hasDistinctKeys_of_get? {v w : Json} {key : String} (h : v.HasDistinctKeys)
    (hget : v.get? key = some w) :
  w.HasDistinctKeys
  := by
  cases v with
  | object fields =>
    rw [hasDistinctKeys_object_iff] at h
    apply h.2 (key, w)
    apply (Table.lookup_eq_some_iff_mem h.1).mp hget
  | null | bool | int | float | string | array => contradiction

namespace Config

/-- In a setting no key is repeated if none is in the layer. -/
theorem hasDistinctKeys_of_setting? {path : List String} {v w : Json} (h : v.HasDistinctKeys)
    (hsetting : setting? path v = some w) :
  w.HasDistinctKeys
  := by
  induction path generalizing v with
  | nil =>
    rw [← Option.some.inj hsetting]
    apply h
  | cons key path ih =>
    obtain ⟨u, hget, hsetting⟩ := Option.bind_eq_some_iff.mp hsetting
    apply ih (Json.hasDistinctKeys_of_get? h hget) hsetting

mutual

/-- Two layers without repeated keys add up to one without. -/
theorem hasDistinctKeys_overlay {lower : Json} (hlower : lower.HasDistinctKeys) (upper : Json)
    (hupper : upper.HasDistinctKeys) :
  (overlay lower upper).HasDistinctKeys
  := by
  match upper with
  | .object fields =>
    cases lower with
    | object known =>
      rw [overlay]
      apply hasDistinctKeys_overlayFields hlower
      apply (Json.hasDistinctKeys_object_iff.mp hupper).2
    | null | bool | int | float | string | array =>
      rw [overlay]
      · apply hupper
      · nofun
  | .null | .bool _ | .int _ | .float _ | .string _ | .array _ =>
    rw [overlay]
    · apply hupper
    · nofun

/-- Fields that are laid over others repeat no key. -/
theorem hasDistinctKeys_overlayFields {known : List (String × Json)}
    (hknown : (Json.object known).HasDistinctKeys) (fields : List (String × Json))
    (hfields : ∀ f ∈ fields, f.2.HasDistinctKeys) :
  (Json.object (overlayFields known fields)).HasDistinctKeys
  := by
  match fields with
  | [] =>
    rw [overlayFields]
    apply hknown
  | (k, v) :: rest =>
    obtain ⟨hv, hrest⟩ := List.forall_mem_cons.mp hfields
    rw [overlayFields]
    apply hasDistinctKeys_overlayFields _ rest hrest
    have hupper : (match known.lookup k with
        | some lower => overlay lower v
        | none => v).HasDistinctKeys := by
      cases hlookup : known.lookup k with
      | none => apply hv
      | some lower =>
        apply hasDistinctKeys_overlay (Json.hasDistinctKeys_of_get? hknown hlookup) v hv
    rw [Json.hasDistinctKeys_object_iff] at hknown ⊢
    constructor
    · apply Table.nodup_insertEntry hknown.1
    · intro f hf
      obtain rfl | hf := Table.mem_of_mem_insertEntry hf
      · apply hupper
      · apply hknown.2 f hf

end

/-! ### Two layers -/

/-- Of two layers with fields, the sum has the upper one's field over the lower one's. -/
theorem lookup_overlayFields {known fields : List (String × Json)}
    (h : (fields.map Prod.fst).Nodup) (key : String) :
  (overlayFields known fields).lookup key
    = ((fields.lookup key).map fun v => (known.lookup key).elim v (overlay · v)).or
      (known.lookup key)
  := by
  induction fields generalizing known with
  | nil =>
    rw [overlayFields]
    rfl
  | cons f rest ih =>
    obtain ⟨k, v⟩ := f
    rw [List.map_cons, List.nodup_cons] at h
    rw [overlayFields, ih h.2, Table.lookup_insertEntry, Table.lookup_cons_eq]
    by_cases hk : key = k
    · subst hk
      have hrest : rest.lookup key = none := by
        rw [List.lookup_eq_none_iff]
        rintro ⟨k, w⟩ hw
        rw [bne_iff_ne]
        rintro rfl
        exact h.1 (List.mem_map.mpr ⟨_, hw, rfl⟩)
      rw [hrest, if_pos rfl, if_pos rfl]
      cases known.lookup key with
      | none => rfl
      | some lower => rfl
    · rw [if_neg hk, if_neg hk]

/-- A path leads through tables as far as it leads. -/
def Leads : List String → Json → Prop
  | [], _ => True
  | key :: path, v => (∃ fields, v = .object fields) ∧ ∀ w ∈ v.get? key, Leads path w

/-- A path leads as far as any longer one. -/
theorem Leads.of_append {path more : List String} {v : Json} (h : Leads (path ++ more) v) :
  Leads path v
  := by
  induction path generalizing v with
  | nil => trivial
  | cons key path ih =>
    use h.1
    intro w hw
    apply ih (h.2 w hw)

/-- Where a path leads there is a setting, from which the rest of the path leads on. -/
theorem Leads.of_setting? {path more : List String} {v w : Json} (h : Leads (path ++ more) v)
    (hsetting : setting? path v = some w) :
  Leads more w
  := by
  induction path generalizing v with
  | nil =>
    rw [← Option.some.inj hsetting]
    apply h
  | cons key path ih =>
    obtain ⟨u, hget, hsetting⟩ := Option.bind_eq_some_iff.mp hsetting
    apply ih (h.2 u hget) hsetting

/-- The setting at the end of two paths is that of the second in that of the first. -/
theorem setting?_append (path more : List String) (v : Json) :
  setting? (path ++ more) v = (setting? path v).bind (setting? more)
  := by
  induction path generalizing v with
  | nil => rfl
  | cons key path ih =>
    rw [List.cons_append, setting?, setting?, Option.bind_assoc]
    apply Option.bind_congr
    intro w _
    apply ih

/-- A path that leads through tables leads to them wherever it does not end. -/
theorem leads_iff {path : List String} {v : Json} :
  Leads path v ↔ ∀ q, q <+: path → q ≠ path → ∀ w, setting? q v = some w →
    ∃ fields, w = .object fields
  := by
  induction path generalizing v with
  | nil => simp [Leads]
  | cons key path ih =>
    constructor
    · rintro ⟨hobject, hrest⟩ q hq hne w hw
      cases q with
      | nil =>
        rw [← Option.some.inj hw]
        apply hobject
      | cons k q =>
        obtain ⟨rfl, hprefix⟩ := List.cons_prefix_cons.mp hq
        obtain ⟨u, hu, hw⟩ := Option.bind_eq_some_iff.mp hw
        apply ih.mp (hrest u hu) q hprefix _ w hw
        rintro rfl
        exact hne rfl
    · intro h
      constructor
      · apply h [] (List.nil_prefix) (List.cons_ne_nil _ _).symm v rfl
      · intro u hu
        apply ih.mpr
        intro q hq hne w hw
        apply h (key :: q) (List.cons_prefix_cons.mpr ⟨rfl, hq⟩) (by simpa using hne) w
        apply Option.bind_eq_some_iff.mpr ⟨u, hu, hw⟩

/-- At the end of a path that leads through tables in two layers, the sum has the upper one's
setting over the lower one's. -/
theorem setting?_overlay {path : List String} {lower upper : Json} (hlower : Leads path lower)
    (hupper : Leads path upper) (hkeys : upper.HasDistinctKeys) :
  setting? path (overlay lower upper)
    = ((setting? path upper).map fun w => (setting? path lower).elim w (overlay · w)).or
      (setting? path lower)
  := by
  induction path generalizing lower upper with
  | nil => rfl
  | cons key path ih =>
    obtain ⟨⟨known, rfl⟩, hlower⟩ := hlower
    obtain ⟨⟨fields, rfl⟩, hupper⟩ := hupper
    have hget : (overlay (.object known) (.object fields)).get? key
        = ((fields.lookup key).map fun v => (known.lookup key).elim v (overlay · v)).or
          (known.lookup key) := by
      rw [overlay]
      apply lookup_overlayFields (Json.hasDistinctKeys_object_iff.mp hkeys).1
    rw [setting?, hget, setting?, setting?]
    change _ = (((fields.lookup key).bind _).map fun w =>
      ((known.lookup key).bind _).elim w _).or ((known.lookup key).bind _)
    cases hv : fields.lookup key with
    | none => rfl
    | some v =>
      cases hl : known.lookup key with
      | none =>
        change setting? path v = ((setting? path v).map id).or none
        rw [Option.map_id, Option.or_none]
        rfl
      | some l =>
        apply ih (hlower l hl) (hupper v hv) (Json.hasDistinctKeys_of_get? hkeys hv)

/-- The sum of two layers has no fewer settings than the lower one. -/
theorem isSome_setting?_overlay {path : List String} {lower upper : Json}
    (hlower : Leads path lower) (hupper : Leads path upper) (hkeys : upper.HasDistinctKeys)
    (h : (setting? path lower).isSome = true) :
  (setting? path (overlay lower upper)).isSome = true
  := by
  rw [setting?_overlay hlower hupper hkeys, Option.isSome_or, h, Bool.or_true]

/-- A path that leads through tables in two layers does so in their sum. -/
theorem leads_overlay {path : List String} {lower upper : Json} (hlower : Leads path lower)
    (hupper : Leads path upper) (hkeys : upper.HasDistinctKeys) :
  Leads path (overlay lower upper)
  := by
  induction path generalizing lower upper with
  | nil => trivial
  | cons key path ih =>
    obtain ⟨⟨known, rfl⟩, hlower⟩ := hlower
    obtain ⟨⟨fields, rfl⟩, hupper⟩ := hupper
    rw [overlay]
    refine ⟨⟨_, rfl⟩, ?_⟩
    intro w hw
    have hget : (overlayFields known fields).lookup key = some w := hw
    rw [lookup_overlayFields (Json.hasDistinctKeys_object_iff.mp hkeys).1] at hget
    cases hv : fields.lookup key with
    | none =>
      rw [hv] at hget
      apply hlower w hget
    | some v =>
      cases hl : known.lookup key with
      | none =>
        rw [hv, hl] at hget
        rw [← Option.some.inj hget]
        apply hupper v hv
      | some l =>
        rw [hv, hl] at hget
        rw [← Option.some.inj hget]
        apply ih (hlower l hl) (hupper v hv) (Json.hasDistinctKeys_of_get? hkeys hv)

/-! ### Many layers -/

/-- A table of settings, which is not a date. -/
def IsTable (v : Json) : Prop :=
  (∃ fields, v = .object fields) ∧ ∀ text, v ≠ Toml.moment text

/-- Nothing but an object is a table. -/
theorem not_isTable {v : Json} (h : ∀ fields, v ≠ .object fields) :
  ¬IsTable v
  := by
  rintro ⟨⟨fields, hfields⟩, -⟩
  exact h fields hfields

/-- What is no table hides everything below it, unless that is a table. -/
theorem overlay_of_not_isTable {lower upper : Json} (hlower : ¬IsTable lower)
    (hupper : ¬IsTable upper) :
  overlay lower upper = upper
  := by
  cases upper with
  | object fields =>
    cases lower with
    | object known =>
      -- Both are dates, and the text of the upper one is set in the lower one.
      have hdate (v : List (String × Json)) (h : ¬IsTable (.object v)) :
          ∃ text, Json.object v = Toml.moment text := by
        by_contra hnone
        exact h ⟨⟨v, rfl⟩, not_exists.mp hnone⟩
      obtain ⟨text, htext⟩ := hdate fields hupper
      obtain ⟨text', htext'⟩ := hdate known hlower
      rw [htext, htext', Toml.moment, Toml.moment]
      simp [overlay, overlayFields, Table.insertEntry]
    | null | bool | int | float | string | array => rw [overlay]; nofun
  | null | bool | int | float | string | array => rw [overlay]; nofun

/-- A layer that has a setting at the end of a path or nothing: the path leads through tables, there
is no table at its end, and no table repeats a key. -/
structure Provides (path : List String) (v : Json) : Prop where
  leads : Leads path v
  plain : ∀ w ∈ setting? path v, ¬IsTable w
  distinct : v.HasDistinctKeys

/-- The setting of the last layer that has one at the end of a path. -/
def lastGiven (path : List String) (layers : List Json) : Option Json :=
  (layers.filterMap (setting? path)).getLast?

/-- What the upper layers give counts before what the lower ones give. -/
theorem lastGiven_append (path : List String) (below above : List Json) :
  lastGiven path (below ++ above) = (lastGiven path above).or (lastGiven path below)
  := by
  rw [lastGiven, List.filterMap_append, List.getLast?_append]
  rfl

theorem lastGiven_singleton (path : List String) (v : Json) :
  lastGiven path [v] = setting? path v
  := by
  rw [lastGiven]
  cases h : setting? path v with
  | none => simp [h]
  | some w => simp [h]

/-- There is a last layer that has a setting just in case one of them has. -/
theorem isSome_lastGiven_iff {path : List String} {layers : List Json} :
  (lastGiven path layers).isSome = true ↔ ∃ v ∈ layers, (setting? path v).isSome = true
  := by
  rw [lastGiven, List.getLast?_isSome, ne_eq, List.filterMap_eq_nil_iff]
  simp [Option.ne_none_iff_isSome]

/-- Of two layers the upper one counts, if it has a setting there. -/
theorem setting?_of_provides_overlay {path : List String} {lower upper : Json}
    (hlower : Provides path lower) (hupper : Provides path upper) :
  setting? path (overlay lower upper) = (setting? path upper).or (setting? path lower)
  := by
  rw [setting?_overlay hlower.leads hupper.leads hupper.distinct]
  cases hw : setting? path upper with
  | none => rfl
  | some w =>
    cases hu : setting? path lower with
    | none => rfl
    | some u => exact congrArg some (overlay_of_not_isTable (hlower.plain u hu) (hupper.plain w hw))

/-- A layer over another has a setting at the end of a path or nothing, if both have. -/
theorem Provides.overlay {path : List String} {lower upper : Json}
    (hlower : Provides path lower) (hupper : Provides path upper) :
  Provides path (overlay lower upper)
  where
  leads := leads_overlay hlower.leads hupper.leads hupper.distinct
  plain := by
    intro w hw
    rw [setting?_of_provides_overlay hlower hupper, Option.mem_def, Option.or_eq_some_iff] at hw
    obtain hw | ⟨-, hw⟩ := hw
    · apply hupper.plain w hw
    · apply hlower.plain w hw
  distinct := hasDistinctKeys_overlay hlower.distinct upper hupper.distinct

/-- A layer in which nothing is set has nothing at the end of any path. -/
theorem provides_nil (key : String) (path : List String) :
  Provides (key :: path) (.object [])
  where
  leads := ⟨⟨[], rfl⟩, nofun⟩
  plain := nofun
  distinct := by decide

/-- The last layer is laid over those before it. -/
theorem stack_concat (layers : List Json) (v : Json) :
  stack (layers ++ [v]) = overlay (stack layers) v
  := List.foldl_concat ..

/-- Layers add up to the last setting. -/
theorem provides_stack {key : String} {path : List String} {layers : List Json}
    (h : ∀ v ∈ layers, Provides (key :: path) v) :
  Provides (key :: path) (stack layers)
    ∧ setting? (key :: path) (stack layers) = lastGiven (key :: path) layers
  := by
  induction layers using List.reverseRecOn with
  | nil => exact ⟨provides_nil key path, rfl⟩
  | append_singleton layers v ih =>
    rw [List.forall_mem_append, List.forall_mem_singleton] at h
    obtain ⟨hlayers, hv⟩ := h
    obtain ⟨hstack, hsetting⟩ := ih hlayers
    rw [stack_concat, setting?_of_provides_overlay hstack hv, lastGiven_append,
      lastGiven_singleton, hsetting]
    exact ⟨hstack.overlay hv, rfl⟩

/-- It does not matter whether layers were added up before. -/
theorem lastGiven_stack {key : String} {path : List String} {layers : List Json}
    (h : ∀ v ∈ layers, Provides (key :: path) v) :
  lastGiven (key :: path) [stack layers] = lastGiven (key :: path) layers
  := by
  rw [lastGiven_singleton, (provides_stack h).2]

/-- A setting that is there in some layer is there in all of them together. -/
theorem isSome_setting?_stack {key : String} {path : List String} {first : Json}
    {layers : List Json}
    (h : ∀ v ∈ first :: layers, Leads (key :: path) v ∧ v.HasDistinctKeys)
    (hfirst : (setting? (key :: path) first).isSome = true) :
  Leads (key :: path) (stack (first :: layers))
    ∧ (setting? (key :: path) (stack (first :: layers))).isSome = true
  := by
  induction layers using List.reverseRecOn with
  | nil =>
    obtain ⟨hleads, hkeys⟩ := h first (List.mem_singleton_self first)
    have hnil := (provides_nil key path).leads
    have hstack : stack [first] = overlay (.object []) first := rfl
    rw [hstack, setting?_overlay hnil hleads hkeys, Option.isSome_or, Option.isSome_map, hfirst]
    exact ⟨leads_overlay hnil hleads hkeys, rfl⟩
  | append_singleton layers v ih =>
    rw [← List.cons_append, List.forall_mem_append, List.forall_mem_singleton] at h
    obtain ⟨hlayers, hleads, hkeys⟩ := h
    obtain ⟨hstack, hsome⟩ := ih hlayers
    rw [← List.cons_append, stack_concat]
    exact ⟨leads_overlay hstack hleads hkeys, isSome_setting?_overlay hstack hleads hkeys hsome⟩

end Config

end InteractionRouting
