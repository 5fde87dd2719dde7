import InteractionRouting.Proofs.Arguments.Getters

/-!
# What a value resolves to

A value resolves exactly if it is of the JSON type that its kind demands and, where it is a
reference, is the id of an entity in a table that the kind consults.  It resolves to itself or to
that entity.  Of the directory nothing matters but what stands under the id in these tables.
-/

namespace InteractionRouting

/-- A value is of the JSON type that a kind demands. -/
inductive Parameter.Kind.Fits : Parameter.Kind → Json → Prop
  | string (text : String) : Fits .string (.string text)
  | integral (i : WideInt) : Fits .number (.int i)
  | double (x : Float) : Fits .number (.float x)
  /-- An integer, and one that fits a signed word. -/
  | integer {i : WideInt} (h : i.val < 9223372036854775808) : Fits .integer (.int i)
  | boolean (b : Bool) : Fits .boolean (.bool b)
  | reference {kind : Parameter.Kind} (h : kind.isReference = true) (id : String) :
      Fits kind (.string id)

namespace Directory

/-- What a value of a kind means: itself, or what the tables have under the id that it is. -/
inductive Means (d : Directory) : Parameter.Kind → Json → Argument → Prop
  | string (text : String) : d.Means .string (.string text) (.string text)
  | integral (i : WideInt) : d.Means .number (.int i) (.number i.toFloat)
  | double (x : Float) : d.Means .number (.float x) (.number x)
  | integer {i : WideInt} {n : Int64} (h : n.toInt = i.val) :
      d.Means .integer (.int i) (.integer n)
  | boolean (b : Bool) : d.Means .boolean (.bool b) (.boolean b)
  | user {id : String} {u : User} (h : d.users.get? id = some u) :
      d.Means .user (.string id) (.user ⟨u, d.members.get? id⟩)
  | role {id : String} {r : Role} (h : d.roles.get? id = some r) :
      d.Means .role (.string id) (.role r)
  | channel {id : String} {c : Channel} (h : d.channels.get? id = some c) :
      d.Means .channel (.string id) (.channel c)
  | mentionableUser {id : String} {u : User} (h : d.users.get? id = some u) :
      d.Means .mentionable (.string id) (.user ⟨u, d.members.get? id⟩)
  /-- A role counts only where there is no user of its id. -/
  | mentionableRole {id : String} {r : Role} (hnone : d.users.get? id = none)
      (h : d.roles.get? id = some r) :
      d.Means .mentionable (.string id) (.role r)

/-- The ids in the tables that a kind consults. -/
def ids (d : Directory) : Parameter.Kind → List String
  | .user => d.users.keys
  | .role => d.roles.keys
  | .channel => d.channels.keys
  | .mentionable => d.users.keys ++ d.roles.keys
  | .string | .number | .integer | .boolean => []

/-- Two directories have the same under an id in the tables that a kind consults, and where it
consults users they have the same member. -/
def AgreesOn (d d' : Directory) (kind : Parameter.Kind) (id : String) : Prop :=
  match kind with
  | .user => d.users.get? id = d'.users.get? id ∧ d.members.get? id = d'.members.get? id
  | .role => d.roles.get? id = d'.roles.get? id
  | .channel => d.channels.get? id = d'.channels.get? id
  | .mentionable =>
    d.users.get? id = d'.users.get? id ∧ d.members.get? id = d'.members.get? id
      ∧ d.roles.get? id = d'.roles.get? id
  | .string | .number | .integer | .boolean => True

end Directory

namespace Table

variable {α : Type} {t : Table α} {key : String}

/-- The keys of a table are those that have a value. -/
theorem mem_keys_iff :
  key ∈ t.keys ↔ ∃ value, t.get? key = some value
  := by
  simp [keys, get?_eq_some_iff]

/-- Nothing stands under what is no key of the table. -/
theorem get?_eq_none_iff :
  t.get? key = none ↔ key ∉ t.keys
  := by
  simp [mem_keys_iff, Option.eq_none_iff_forall_ne_some]

end Table

/-! ### Entities -/

namespace Directory

variable {d d' : Directory} {kind : Parameter.Kind} {id : String} {v : Argument}

/-- The entity of an id in the tables that a kind consults; of something mentionable a user comes
before a role. -/
def entity? (d : Directory) (id : String) : Parameter.Kind → Option Argument
  | .user => (d.guildUser? id).map .user
  | .role => (d.roles.get? id).map .role
  | .channel => (d.channels.get? id).map .channel
  | .mentionable => ((d.guildUser? id).map .user).or ((d.roles.get? id).map .role)
  | .string | .number | .integer | .boolean => none

theorem guildUser?_eq_none_iff :
  d.guildUser? id = none ↔ d.users.get? id = none
  := Option.map_eq_none_iff

theorem guildUser?_of_get?_eq_some {u : User} (h : d.users.get? id = some u) :
  d.guildUser? id = some ⟨u, d.members.get? id⟩
  := by
  rw [guildUser?, h, Option.map_some]

/-- A user of the guild depends on nothing but the user and the member of its id. -/
theorem guildUser?_congr (huser : d.users.get? id = d'.users.get? id)
    (hmember : d.members.get? id = d'.members.get? id) :
  d.guildUser? id = d'.guildUser? id
  := by
  rw [guildUser?, guildUser?, huser, hmember]

/-- An id means the entity that it has. -/
theorem means_of_entity?_eq_some (h : d.entity? id kind = some v) :
  d.Means kind (.string id) v
  := by
  cases kind with
  | string | number | integer | boolean => contradiction
  | user =>
    obtain ⟨g, hg, rfl⟩ := Option.map_eq_some_iff.mp h
    obtain ⟨u, hu, rfl⟩ := Option.map_eq_some_iff.mp hg
    exact .user hu
  | role =>
    obtain ⟨r, hr, rfl⟩ := Option.map_eq_some_iff.mp h
    exact .role hr
  | channel =>
    obtain ⟨c, hc, rfl⟩ := Option.map_eq_some_iff.mp h
    exact .channel hc
  | mentionable =>
    obtain h | ⟨hnone, h⟩ := Option.or_eq_some_iff.mp h
    · obtain ⟨g, hg, rfl⟩ := Option.map_eq_some_iff.mp h
      obtain ⟨u, hu, rfl⟩ := Option.map_eq_some_iff.mp hg
      exact .mentionableUser hu
    · obtain ⟨r, hr, rfl⟩ := Option.map_eq_some_iff.mp h
      exact .mentionableRole (guildUser?_eq_none_iff.mp (Option.map_eq_none_iff.mp hnone)) hr

/-- What a reference means is read off an id. -/
theorem Means.exists_eq_string {value : Json} (h : d.Means kind value v)
    (hkind : kind.isReference = true) :
  ∃ id, value = .string id
  := by
  cases h with
  | string | integral | double | integer | boolean => contradiction
  | user | role | channel | mentionableUser | mentionableRole => exact ⟨_, rfl⟩

/-- An id has the entity that it means. -/
theorem entity?_eq_some_of_means (hkind : kind.isReference = true)
    (h : d.Means kind (.string id) v) :
  d.entity? id kind = some v
  := by
  cases h with
  | string => contradiction
  | user h => rw [entity?, guildUser?_of_get?_eq_some h, Option.map_some]
  | role h | channel h => rw [entity?, h, Option.map_some]
  | mentionableUser h =>
    rw [entity?, guildUser?_of_get?_eq_some h, Option.map_some, Option.some_or]
  | mentionableRole hnone h =>
    rw [entity?, guildUser?_eq_none_iff.mpr hnone, h, Option.map_none, Option.none_or,
      Option.map_some]

/-- The ids that have an entity are those in the tables that are consulted. -/
theorem entity?_eq_none_iff :
  d.entity? id kind = none ↔ id ∉ d.ids kind
  := by
  cases kind with
  | string | number | integer | boolean => exact iff_of_true rfl List.not_mem_nil
  | user =>
    rw [entity?, Option.map_eq_none_iff, guildUser?_eq_none_iff, Table.get?_eq_none_iff]
    rfl
  | role | channel =>
    rw [entity?, Option.map_eq_none_iff, Table.get?_eq_none_iff]
    rfl
  | mentionable =>
    rw [entity?, Option.or_eq_none_iff, Option.map_eq_none_iff, Option.map_eq_none_iff,
      guildUser?_eq_none_iff, Table.get?_eq_none_iff, Table.get?_eq_none_iff, ids,
      List.mem_append, not_or]

/-- Directories that agree on an id have the same entity of it. -/
theorem AgreesOn.entity?_eq (h : d.AgreesOn d' kind id) :
  d.entity? id kind = d'.entity? id kind
  := by
  cases kind with
  | string | number | integer | boolean => rfl
  | user =>
    obtain ⟨huser, hmember⟩ := h
    rw [entity?, entity?, guildUser?_congr huser hmember]
  | role | channel => rw [entity?, entity?, show _ = _ from h]
  | mentionable =>
    obtain ⟨huser, hmember, hrole⟩ := h
    rw [entity?, entity?, guildUser?_congr huser hmember, hrole]

end Directory

/-! ### The three ways it can go -/

namespace Supplied

variable {s : Supplied} {d d' : Directory} {v : Argument} {id : String}

/-- A look-up depends on what is found under the id that the value is. -/
theorem lookUp_congr {find find' : String → Option Argument}
    (h : ∀ id, s.value = .string id → find id = find' id) :
  s.lookUp find = s.lookUp find'
  := by
  rw [lookUp, lookUp]
  cases hid : s.value.asString? with
  | none => rfl
  | some id =>
    dsimp only
    rw [h id (Json.asString?_eq_some_iff.mp hid)]

/-- A reference is looked up as an id. -/
theorem resolve_of_isReference (h : s.kind.isReference = true) (d : Directory) :
  s.resolve d = s.lookUp fun id => d.entity? id s.kind
  := by
  rw [resolve]
  cases hkind : s.kind with
  | string | number | integer | boolean =>
    rw [hkind] at h
    contradiction
  | user | role | channel | mentionable => rfl

/-- The value of a reference is an id, or it is refused. -/
theorem resolve_string_of_isReference (hkind : s.kind.isReference = true)
    (hvalue : s.value = .string id) (d : Directory) :
  s.resolve d = match d.entity? id s.kind with
    | some v => .ok v
    | none => .error (.notFound s.kind.label)
  := by
  rw [resolve_of_isReference hkind, lookUp, hvalue]
  rfl

/-- A value resolves to what it means. -/
theorem resolve_of_means (h : d.Means s.kind s.value v) :
  s.resolve d = .ok v
  := by
  by_cases hkind : s.kind.isReference = true
  · obtain ⟨id, hvalue⟩ := h.exists_eq_string hkind
    rw [hvalue] at h
    rw [resolve_string_of_isReference hkind hvalue, Directory.entity?_eq_some_of_means hkind h]
  · obtain ⟨name, kind, value⟩ := s
    cases h with
    | string | integral | double | boolean => rfl
    | @integer i n h =>
      have hi : i.val < 9223372036854775808 := h ▸ n.toInt_lt
      have hn : Int64.ofInt i.val = n := by rw [← h, Int64.ofInt_toInt]
      simp only [resolve, Json.asInt64?, if_pos hi, hn]
      rfl
    | user | role | channel | mentionableUser | mentionableRole => contradiction

/-- A value that is not of the type it should be is refused, whatever the directory has. -/
theorem resolve_of_not_fits (h : ¬ s.kind.Fits s.value) (d : Directory) :
  s.resolve d
    = .error (.invalid s.name (if s.kind.isReference then "reference id" else s.kind.label))
  := by
  obtain ⟨name, kind, value⟩ := s
  cases kind with
  | string =>
    cases value with
    | string text => exact absurd (.string text) h
    | null | bool | int | float | array | object => rfl
  | number =>
    cases value with
    | int i => exact absurd (.integral i) h
    | float x => exact absurd (.double x) h
    | null | bool | string | array | object => rfl
  | integer =>
    cases value with
    | int i =>
      have hi : ¬ i.val < 9223372036854775808 := fun hi => h (.integer hi)
      simp only [resolve, Json.asInt64?, if_neg hi]
      rfl
    | null | bool | float | string | array | object => rfl
  | boolean =>
    cases value with
    | bool b => exact absurd (.boolean b) h
    | null | int | float | string | array | object => rfl
  | user | channel | role | mentionable =>
    cases value with
    | string id => exact absurd (.reference rfl id) h
    | null | bool | int | float | array | object => rfl

/-- An id that is in no table that is consulted is not found. -/
theorem resolve_of_not_mem_ids (hkind : s.kind.isReference = true) (hvalue : s.value = .string id)
    (hid : id ∉ d.ids s.kind) :
  s.resolve d = .error (.notFound s.kind.label)
  := by
  rw [resolve_string_of_isReference hkind hvalue, Directory.entity?_eq_none_iff.mpr hid]

/-- A value means something, or it is not of the type it should be, or it is an id that is in no
table that is consulted. -/
theorem means_or_not_fits_or_not_mem_ids (s : Supplied) (d : Directory) :
  (∃ v, d.Means s.kind s.value v) ∨ ¬ s.kind.Fits s.value
    ∨ s.kind.isReference = true ∧ ∃ id, s.value = .string id ∧ id ∉ d.ids s.kind
  := by
  obtain ⟨name, kind, value⟩ := s
  by_cases hfits : kind.Fits value
  · cases hfits with
    | string text => exact .inl ⟨_, .string text⟩
    | integral i => exact .inl ⟨_, .integral i⟩
    | double x => exact .inl ⟨_, .double x⟩
    | @integer i h => exact .inl ⟨_, .integer (Int64.toInt_ofInt_of_le i.lower h)⟩
    | boolean b => exact .inl ⟨_, .boolean b⟩
    | reference hkind id =>
      cases hentity : d.entity? id kind with
      | some v => exact .inl ⟨v, Directory.means_of_entity?_eq_some hentity⟩
      | none => exact .inr (.inr ⟨hkind, id, rfl, Directory.entity?_eq_none_iff.mp hentity⟩)
  · exact .inr (.inl hfits)

/-- A value resolves to what it means, and to nothing else. -/
theorem resolve_eq_ok_iff :
  s.resolve d = .ok v ↔ d.Means s.kind s.value v
  := by
  constructor
  · intro h
    obtain ⟨v', hmeans⟩ | hfits | ⟨hkind, id, hvalue, hid⟩ :=
      s.means_or_not_fits_or_not_mem_ids d
    · rw [resolve_of_means hmeans, Except.ok.injEq] at h
      rw [← h]
      exact hmeans
    · rw [resolve_of_not_fits hfits] at h
      contradiction
    · rw [resolve_of_not_mem_ids hkind hvalue hid] at h
      contradiction
  · apply resolve_of_means

/-- A value that does not resolve is not of the type it should be, or it is an id that is in no
table that is consulted. -/
theorem resolve_eq_error_iff {error : ResolutionError} :
  s.resolve d = .error error
    ↔ (¬ s.kind.Fits s.value
        ∧ error = .invalid s.name
            (if s.kind.isReference then "reference id" else s.kind.label))
      ∨ s.kind.isReference = true
        ∧ ∃ id, s.value = .string id ∧ id ∉ d.ids s.kind ∧ error = .notFound s.kind.label
  := by
  constructor
  · intro h
    obtain ⟨v, hmeans⟩ | hfits | ⟨hkind, id, hvalue, hid⟩ :=
      s.means_or_not_fits_or_not_mem_ids d
    · rw [resolve_of_means hmeans] at h
      contradiction
    · rw [resolve_of_not_fits hfits, Except.error.injEq] at h
      exact .inl ⟨hfits, h.symm⟩
    · rw [resolve_of_not_mem_ids hkind hvalue hid, Except.error.injEq] at h
      exact .inr ⟨hkind, id, hvalue, hid, h.symm⟩
  · rintro (⟨hfits, rfl⟩ | ⟨hkind, id, hvalue, hid, rfl⟩)
    · apply resolve_of_not_fits hfits
    · apply resolve_of_not_mem_ids hkind hvalue hid

/-- A value resolves exactly if it is of the type it should be and its id, where it is one, is in
a table that is consulted. -/
theorem exists_resolve_eq_ok_iff :
  (∃ v, s.resolve d = .ok v)
    ↔ s.kind.Fits s.value
      ∧ (s.kind.isReference = true → ∀ id, s.value = .string id → id ∈ d.ids s.kind)
  := by
  constructor
  · rintro ⟨v, h⟩
    constructor
    · by_contra hfits
      rw [resolve_of_not_fits hfits] at h
      contradiction
    · intro hkind id hvalue
      by_contra hid
      rw [resolve_of_not_mem_ids hkind hvalue hid] at h
      contradiction
  · rintro ⟨hfits, hids⟩
    obtain ⟨v, hmeans⟩ | hnot | ⟨hkind, id, hvalue, hid⟩ :=
      s.means_or_not_fits_or_not_mem_ids d
    · exact ⟨v, resolve_of_means hmeans⟩
    · contradiction
    · exact absurd (hids hkind id hvalue) hid

/-- Directories that agree on the id that a value is are the same to it. -/
theorem resolve_congr (h : ∀ id, s.value = .string id → d.AgreesOn d' s.kind id) :
  s.resolve d = s.resolve d'
  := by
  by_cases hkind : s.kind.isReference = true
  · rw [resolve_of_isReference hkind, resolve_of_isReference hkind]
    apply lookUp_congr
    intro id hvalue
    apply (h id hvalue).entity?_eq
  · rw [resolve, resolve]
    cases hkind' : s.kind with
    | string | number | integer | boolean => rfl
    | user | role | channel | mentionable =>
      rw [hkind'] at hkind
      contradiction

/-- Whatever the directory has:

* a value resolves to what it means, and to nothing else;
* it resolves exactly if it is of the JSON type that its kind demands and, where it is a reference,
  its id is in a table that is consulted;
* otherwise it is an invalid value, of whatever is in the tables, or an entity of its kind that was
  not found;
* directories that agree on what stands under the one id in the tables that are consulted, and on
  the member of a user, resolve it alike. -/
theorem resolve_value_exact (s : Supplied) :
  (∀ d v, s.resolve d = .ok v ↔ d.Means s.kind s.value v)
    ∧ (∀ d, (∃ v, s.resolve d = .ok v)
        ↔ s.kind.Fits s.value
          ∧ (s.kind.isReference = true → ∀ id, s.value = .string id → id ∈ d.ids s.kind))
    ∧ (∀ d error, s.resolve d = .error error
        ↔ (¬ s.kind.Fits s.value
            ∧ error = .invalid s.name
                (if s.kind.isReference then "reference id" else s.kind.label))
          ∨ s.kind.isReference = true
            ∧ ∃ id, s.value = .string id ∧ id ∉ d.ids s.kind ∧ error = .notFound s.kind.label)
    ∧ (∀ d d', (∀ id, s.value = .string id → d.AgreesOn d' s.kind id) →
        s.resolve d = s.resolve d')
  := ⟨fun _ _ => resolve_eq_ok_iff, fun _ => exists_resolve_eq_ok_iff,
    fun _ _ => resolve_eq_error_iff, fun _ _ => resolve_congr⟩

end Supplied

end InteractionRouting
