import InteractionRouting.Proofs.Arguments.Resolution

/-!
# What getters find

A value that resolves is of the kind it was given for, so the getter of this kind finds it.  Hence
the getter of the kind of a parameter has a value exactly if one was given for the parameter, and
no getter has one under a name that is not declared.  A user that is found stands in the directory
under the id that was given, and its member under the same id.
-/

namespace InteractionRouting

/-! ### What values resolve to -/

theorem Json.asString?_eq_some_iff {v : Json} {id : String} :
  v.asString? = some id ↔ v = .string id
  := by
  cases v <;> simp [asString?]

namespace Supplied

variable {s : Supplied} {v : Argument}

/-- A value that has to be found of some type is that value, if it was found. -/
theorem expect_map_eq_ok_iff {α : Type} {found : Option α} {f : α → Argument} :
  s.expect (found.map f) = .ok v ↔ ∃ x, found = some x ∧ f x = v
  := by
  cases found <;> simp [expect, refuse]

/-- The entity of an id is found if the value is the id of one. -/
theorem lookUp_eq_ok_iff {find : String → Option Argument} :
  s.lookUp find = .ok v ↔ ∃ id, s.value = .string id ∧ find id = some v
  := by
  simp only [← Json.asString?_eq_some_iff]
  rw [lookUp]
  cases s.value.asString? with
  | none => simp [refuse]
  | some id => cases hfind : find id <;> simp [hfind]

/-- What is looked up is what an id leads to, and the value is that id. -/
theorem lookUp_map_eq_ok_iff {α : Type} {find : String → Option α} {f : α → Argument} :
  (s.lookUp fun id => (find id).map f) = .ok v
    ↔ ∃ id x, s.value = .string id ∧ find id = some x ∧ f x = v
  := by
  simp only [lookUp_eq_ok_iff, Option.map_eq_some_iff, exists_and_left]

end Supplied

/-- What a value of a kind resolves to. -/
inductive Directory.Resolves (d : Directory) : Parameter.Kind → Json → Argument → Prop
  | string (text : String) : d.Resolves .string (.string text) (.string text)
  | number {value : Json} {x : Float} (h : value.asFloat? = some x) :
      d.Resolves .number value (.number x)
  | integer {value : Json} {i : Int64} (h : value.asInt64? = some i) :
      d.Resolves .integer value (.integer i)
  | boolean {value : Json} {b : Bool} (h : value.asBool? = some b) :
      d.Resolves .boolean value (.boolean b)
  | user {id : String} {u : GuildUser} (h : d.guildUser? id = some u) :
      d.Resolves .user (.string id) (.user u)
  | role {id : String} {r : Role} (h : d.roles.get? id = some r) :
      d.Resolves .role (.string id) (.role r)
  | channel {id : String} {c : Channel} (h : d.channels.get? id = some c) :
      d.Resolves .channel (.string id) (.channel c)
  | mentionableUser {id : String} {u : GuildUser} (h : d.guildUser? id = some u) :
      d.Resolves .mentionable (.string id) (.user u)
  | mentionableRole {id : String} {r : Role} (hnone : d.guildUser? id = none)
      (h : d.roles.get? id = some r) :
      d.Resolves .mentionable (.string id) (.role r)

/-- A value resolves to nothing but what it stands for in the directory. -/
theorem Supplied.resolves_of_resolve {d : Directory} {s : Supplied} {v : Argument}
    (h : s.resolve d = .ok v) :
  d.Resolves s.kind s.value v
  := by
  rw [resolve] at h
  cases hkind : s.kind with
  | string =>
    rw [hkind, expect_map_eq_ok_iff] at h
    obtain ⟨text, htext, rfl⟩ := h
    rw [Json.asString?_eq_some_iff.mp htext]
    apply Directory.Resolves.string
  | number =>
    rw [hkind, expect_map_eq_ok_iff] at h
    obtain ⟨x, hx, rfl⟩ := h
    apply Directory.Resolves.number hx
  | integer =>
    rw [hkind, expect_map_eq_ok_iff] at h
    obtain ⟨i, hi, rfl⟩ := h
    apply Directory.Resolves.integer hi
  | boolean =>
    rw [hkind, expect_map_eq_ok_iff] at h
    obtain ⟨b, hb, rfl⟩ := h
    apply Directory.Resolves.boolean hb
  | user =>
    rw [hkind, lookUp_map_eq_ok_iff] at h
    obtain ⟨id, u, hid, hu, rfl⟩ := h
    rw [hid]
    apply Directory.Resolves.user hu
  | role =>
    rw [hkind, lookUp_map_eq_ok_iff] at h
    obtain ⟨id, r, hid, hr, rfl⟩ := h
    rw [hid]
    apply Directory.Resolves.role hr
  | channel =>
    rw [hkind, lookUp_map_eq_ok_iff] at h
    obtain ⟨id, c, hid, hc, rfl⟩ := h
    rw [hid]
    apply Directory.Resolves.channel hc
  | mentionable =>
    -- a user comes before a role
    rw [hkind, lookUp_eq_ok_iff] at h
    obtain ⟨id, hid, hfind⟩ := h
    rw [hid]
    obtain huser | ⟨hnone, hrole⟩ := Option.or_eq_some_iff.mp hfind
    · obtain ⟨u, hu, rfl⟩ := Option.map_eq_some_iff.mp huser
      apply Directory.Resolves.mentionableUser hu
    · obtain ⟨r, hr, rfl⟩ := Option.map_eq_some_iff.mp hrole
      apply Directory.Resolves.mentionableRole (Option.map_eq_none_iff.mp hnone) hr

/-- Whether an argument is something that the getter of a kind gives: a number may be an integer,
and something mentionable is a user or a role. -/
def Argument.isGivenAs (v : Argument) : Parameter.Kind → Bool
  | .string => v.asString?.isSome
  | .number => v.asNumber?.isSome
  | .integer => v.asInteger?.isSome
  | .boolean => v.asBoolean?.isSome
  | .user => v.asUser?.isSome
  | .channel => v.asChannel?.isSome
  | .role => v.asRole?.isSome
  | .mentionable => v.isMentionable

/-- What a value resolves to is something that the getter of its kind gives. -/
theorem Directory.Resolves.isGivenAs {d : Directory} {kind : Parameter.Kind} {value : Json}
    {v : Argument} (h : d.Resolves kind value v) :
  v.isGivenAs kind = true
  := by
  cases h <;> rfl

/-- An integer is a number, too. -/
theorem Directory.Resolves.isGivenAs_number {d : Directory} {value : Json} {v : Argument}
    (h : d.Resolves .integer value v) :
  v.isGivenAs .number = true
  := by
  cases h
  rfl

/-- A user of the guild is the user of an id, with the member of the same id. -/
theorem Directory.guildUser?_eq_some_iff {d : Directory} {id : String} {u : GuildUser} :
  d.guildUser? id = some u ↔ d.users.get? id = some u.user ∧ u.member = d.members.get? id
  := by
  rw [guildUser?, Option.map_eq_some_iff]
  constructor
  · rintro ⟨user, huser, rfl⟩
    exact ⟨huser, rfl⟩
  · rintro ⟨huser, hmember⟩
    exact ⟨u.user, huser, by rw [← hmember]⟩

/-- A user that a value resolves to stands under the id that is the value, and so does its
member. -/
theorem Directory.Resolves.user_eq {d : Directory} {kind : Parameter.Kind} {value : Json}
    {u : GuildUser} (h : d.Resolves kind value (.user u)) :
  ∃ id, value = .string id ∧ d.users.get? id = some u.user ∧ u.member = d.members.get? id
  := by
  cases h with
  | user hfind => exact ⟨_, rfl, guildUser?_eq_some_iff.mp hfind⟩
  | mentionableUser hfind => exact ⟨_, rfl, guildUser?_eq_some_iff.mp hfind⟩

/-! ### What getters give -/

namespace Arguments

/-- Whether the getter of a kind gives something under a name. -/
def has (a : Arguments) (name : String) : Parameter.Kind → Bool
  | .string => (a.string? name).isSome
  | .number => (a.number? name).isSome
  | .integer => (a.integer? name).isSome
  | .boolean => (a.boolean? name).isSome
  | .user => (a.user? name).isSome
  | .channel => (a.channel? name).isSome
  | .role => (a.role? name).isSome
  | .mentionable => (a.mentionable? name).isSome

/-- The getter of a kind gives what is given as this kind. -/
theorem has_eq_any (a : Arguments) (name : String) (kind : Parameter.Kind) :
  a.has name kind = (a.get? name).any (·.isGivenAs kind)
  := by
  cases kind with
  | mentionable => apply Option.isSome_filter
  | _ => apply Option.isSome_bind

/-- A user that a getter gives is the argument of the name. -/
theorem get?_eq_user {a : Arguments} {name : String} {u : GuildUser}
    (h : a.user? name = some u ∨ a.mentionable? name = some (.user u)) :
  a.get? name = some (.user u)
  := by
  obtain huser | hmentionable := h
  · obtain ⟨v, hget, hv⟩ := Option.bind_eq_some_iff.mp huser
    cases v with
    | user u' =>
      obtain rfl := Option.some.inj hv
      apply hget
    | _ => contradiction
  · apply (Option.filter_eq_some_iff.mp hmentionable).1

variable {s : Signature} {e : CommandEnvelope} {a : Arguments} {name : String} {p : Parameter}
  {v : Argument}

/-- A value is found for a name exactly if one was given for it. -/
theorem isSome_supplied?_iff :
  (e.supplied? name).isSome = true ↔ ∃ x ∈ e.supplied, x.name = name
  := by
  rw [CommandEnvelope.supplied?, List.find?_isSome]
  simp only [beq_iff_eq]

/-- What a parameter is bound to is what the first value given for it resolves to. -/
theorem Binds.resolves (h : Binds e name p v) :
  ∃ first, e.supplied? name = some first ∧ e.directory.Resolves p.kind first.value v
  := by
  obtain ⟨first, hfirst, hkind, hresolve⟩ := h
  exact ⟨first, hfirst, hkind ▸ Supplied.resolves_of_resolve hresolve⟩

/-- A parameter that is in order is bound exactly if a value was given for it. -/
theorem Settles.exists_binds_iff (h : Settles e name p) :
  (∃ v, Binds e name p v) ↔ ∃ x ∈ e.supplied, x.name = name
  := by
  rw [← isSome_supplied?_iff]
  constructor
  · rintro ⟨v, first, hfirst, -⟩
    rw [hfirst]
    rfl
  · intro hsome
    apply h.resolve_right
    rintro ⟨hnone, -⟩
    rw [hnone] at hsome
    contradiction

/-- Where arguments resolve, every parameter has its argument or does without one. -/
theorem settles_of_resolve (h : resolve s e = .ok a) (hp : s.get? name = some p) :
  Settles e name p
  := exists_resolve_eq_ok_iff.mp ⟨a, h⟩ (name, p) (Signature.get?_eq_some_iff.mp hp)

/-- A getter that gives whatever the values of a parameter resolve to gives something exactly if
a value was given for the parameter. -/
theorem has_iff (h : resolve s e = .ok a) (hp : s.get? name = some p) {kind : Parameter.Kind}
    (hkind : ∀ value v, e.directory.Resolves p.kind value v → v.isGivenAs kind = true) :
  a.has name kind = true ↔ ∃ x ∈ e.supplied, x.name = name
  := by
  rw [← (settles_of_resolve h hp).exists_binds_iff, has_eq_any, Option.any_eq_true]
  constructor
  · rintro ⟨v, hget, -⟩
    obtain ⟨p', hp', hbinds⟩ := (get?_of_resolve h).mp hget
    obtain rfl := Option.some.inj (hp.symm.trans hp')
    exact ⟨v, hbinds⟩
  · rintro ⟨v, hbinds⟩
    obtain ⟨first, -, hresolves⟩ := hbinds.resolves
    exact ⟨v, (get?_of_resolve h).mpr ⟨p, hp, hbinds⟩, hkind _ _ hresolves⟩

/-- The getter of the kind of a parameter gives something exactly if a value was given for the
parameter. -/
theorem has_kind_iff (h : resolve s e = .ok a) (hp : s.get? name = some p) :
  a.has name p.kind = true ↔ ∃ x ∈ e.supplied, x.name = name
  := by
  apply has_iff h hp
  intro value v hresolves
  apply hresolves.isGivenAs

/-- An integer counts as a number, so there is a number exactly if a value was given. -/
theorem has_number_iff (h : resolve s e = .ok a) (hp : s.get? name = some p)
    (hkind : p.kind = .integer) :
  a.has name .number = true ↔ ∃ x ∈ e.supplied, x.name = name
  := by
  apply has_iff h hp
  intro value v hresolves
  rw [hkind] at hresolves
  apply hresolves.isGivenAs_number

/-- Something is given for a parameter that is required. -/
theorem has_of_required (h : resolve s e = .ok a) (hp : s.get? name = some p)
    (hrequired : p.required = true) :
  a.has name p.kind = true
  := by
  rw [has_kind_iff h hp, ← (settles_of_resolve h hp).exists_binds_iff]
  apply (settles_of_resolve h hp).resolve_right
  rintro ⟨-, hnot⟩
  rw [hrequired] at hnot
  contradiction

/-- Nothing is given under a name that is not declared. -/
theorem get?_of_not_declared (h : resolve s e = .ok a) (hname : name ∉ s.names) :
  a.get? name = none
  := by
  rw [Option.eq_none_iff_forall_ne_some]
  intro v hget
  obtain ⟨p, hp, -⟩ := (get?_of_resolve h).mp hget
  apply hname (List.mem_map_of_mem (Signature.get?_eq_some_iff.mp hp))

/-- A user that a getter gives stands in the directory under the id that was given, and its member
under the same id. -/
theorem user_of_resolve (h : resolve s e = .ok a) {u : GuildUser}
    (hu : a.user? name = some u ∨ a.mentionable? name = some (.user u)) :
  ∃ first id, e.supplied? name = some first ∧ first.value = .string id
    ∧ e.directory.users.get? id = some u.user ∧ u.member = e.directory.members.get? id
  := by
  obtain ⟨p, hp, hbinds⟩ := (get?_of_resolve h).mp (get?_eq_user hu)
  obtain ⟨first, hfirst, hresolves⟩ := hbinds.resolves
  obtain ⟨id, hid, hstands⟩ := hresolves.user_eq
  exact ⟨first, id, hfirst, hid, hstands⟩

end Arguments

end InteractionRouting
