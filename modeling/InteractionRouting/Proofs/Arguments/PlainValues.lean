import InteractionRouting.Proofs.Arguments.Values
import InteractionRouting.Proofs.Decimal.Finiteness
import InteractionRouting.Proofs.Envelope.RoundTrip
import InteractionRouting.Proofs.Json.Shape
import InteractionRouting.Proofs.Wire.Inheritance

/-!
# Arguments as plain values

A handler may read its arguments as a type of its own, from one object of plain values that bear no
mark of their variant.  Nothing is lost by this.  A plain value is a string, a boolean, a number or
the object of an entity; whether it is a double or an integer can be seen of a number, and the
entities are told apart by the names of their fields.  So an argument can be made out from the value
it is written as, and an entity is read back from it.

Arguments are kept in no order, and they may be written in any.  So nothing is said of the order of
the names in the object, and two objects are the same arguments if they have the same values under
the same names.

JSON has no number for an infinity or a NaN.  There is none among the arguments either: the doubles
of a payload are finite, and an integer is widened to one that is.
-/

namespace InteractionRouting

open Wire Record

/-! ### Users with their members -/

namespace GuildUser

def fields : Record GuildUser GuildUser :=
  GuildUser.mk <$> required "user" User.codec user <*> optional "member" Member.codec member

/-- Users as they are written: user and member, side by side. -/
def codec : Codec GuildUser := fields.codec "GuildUser"

/-- A user with its member is read from what it is written as. -/
theorem readsBack (u : GuildUser) :
  codec.ReadsBack u
  := by
  apply Restores.readsBack (r := fields)
  · exact Restores.required u.user.readsBack |>.map GuildUser.mk
      |>.seq (.optional (option_readsBack fun x _ => x.readsBack))
  · decide

theorem decode_encode (u : GuildUser) (m : Medium) :
  codec.decode m u.encode = .ok u
  := u.readsBack m

end GuildUser

/-! ### Telling plain values apart -/

namespace Argument

/-- An argument that has a plain value: if it is a number, it is a finite one. -/
def IsFinite : Argument → Prop
  | number x => x.isFinite = true
  | string _ | integer _ | boolean _ | user _ | role _ | channel _ => True

/-- The argument that is written as a value.  Of the entities only a user with its member has a
field for the user, and of the others only a channel has a kind. -/
def ofPlain? : Json → Option Argument
  | .string s => some (string s)
  | .bool b => some (boolean b)
  | .int i => some (integer (.ofInt i.val))
  | .float x => some (number x)
  | .object fields =>
    match fields.lookup "user", fields.lookup "kind" with
    | some _, _ => (GuildUser.codec.decode .direct (.object fields)).toOption.map user
    | none, some _ => (Channel.codec.decode .direct (.object fields)).toOption.map channel
    | none, none => (Role.codec.decode .direct (.object fields)).toOption.map role
  | .null | .array _ => none

/-- A finite number is written as a double. -/
theorem encode_number {x : Float} (h : x.isFinite = true) :
  (number x).encode = .float x
  := if_pos h

/-- An argument is made out from its plain value. -/
theorem ofPlain?_encode {v : Argument} (h : v.IsFinite) :
  ofPlain? v.encode = some v
  := by
  cases v with
  | string s => rfl
  | boolean b => rfl
  | number x => rw [encode_number h, ofPlain?]
  | integer i =>
    have hi : Int64.ofInt i.toInt = i := i.ofInt_toInt
    rw [encode, ofPlain?, WideInt.ofInt64, hi]
  | user u =>
    have hplain : ofPlain? u.encode = (GuildUser.codec.decode .direct u.encode).toOption.map user :=
      rfl
    rw [encode, hplain, u.decode_encode]
    rfl
  | role r =>
    have hplain : ofPlain? (Role.codec.encode r)
        = (Role.codec.decode .direct (Role.codec.encode r)).toOption.map role := rfl
    rw [encode, hplain, r.readsBack .direct]
    rfl
  | channel c =>
    have hplain : ofPlain? (Channel.codec.encode c)
        = (Channel.codec.decode .direct (Channel.codec.encode c)).toOption.map channel := rfl
    rw [encode, hplain, c.readsBack .direct]
    rfl

/-- A number that is not finite is written as null, which no other argument is. -/
theorem isFinite_iff_encode_ne_null {v : Argument} :
  v.IsFinite ↔ v.encode ≠ .null
  := by
  cases v with
  | number x =>
    by_cases hx : x.isFinite = true
    · rw [encode_number hx]
      exact iff_of_true hx nofun
    · have hnull : (number x).encode = .null := if_neg hx
      exact iff_of_false hx fun h => h hnull
  | string | integer | boolean | user | role | channel => exact iff_of_true trivial nofun

/-- An argument that has a plain value is the only one that is written as this value. -/
theorem IsFinite.eq_of_encode_eq {v w : Argument} (hv : v.IsFinite) (h : w.encode = v.encode) :
  w = v
  := by
  have hw : w.IsFinite := by
    rw [isFinite_iff_encode_ne_null, h, ← isFinite_iff_encode_ne_null]
    exact hv
  apply Option.some.inj
  rw [← ofPlain?_encode hw, h, ofPlain?_encode hv]

end Argument

/-! ### Doubles of a payload -/

/-- Inside a value with finite doubles all doubles are finite. -/
theorem Json.hereditary_hasFiniteDoubles :
  Hereditary Json.HasFiniteDoubles
  where
  item := hasFiniteDoubles_array_iff.mp
  field := hasFiniteDoubles_object_iff.mp

section

variable {Q : Json → Prop}

/-- The raw values of a command are values inside its payload. -/
theorem Supplied.inherits (hQ : Hereditary Q) :
  Supplied.codec.Inherits Q fun x => Q x.value
  := by
  refine Inherits.codec hQ (.seq (.seq (inherits_map ?_) (.any _))
    (inherits_field Codec.inherits_any nofun))
  intro name kind _ value hvalue
  exact hvalue

/-- What holds of a payload and is handed down to what is inside holds of the raw values. -/
theorem CommandEnvelope.inherits (hQ : Hereditary Q) :
  CommandEnvelope.codec.Inherits Q fun e => ∀ x ∈ e.supplied, Q x.value
  := by
  have hsupplied : (defaulted "options" (.list Supplied.codec) [] supplied).Inherits Q
      fun l => ∀ x ∈ l, Q x.value := by
    apply inherits_field (.list hQ (Supplied.inherits hQ))
    rintro l ⟨⟩ x ⟨⟩
  refine Inherits.codec hQ (.seq (.seq (.seq ?_ hsupplied) (.any _)) (.any _))
  repeat refine .seq ?_ (.any _)
  apply inherits_map
  intros
  rename_i h _ _ _ _ x hx
  exact h x hx

end

/-! ### The plain values of resolved arguments -/

/-- A plain value stands for the argument that a raw value resolves to.  It is the raw value itself,
as a double where that is asked for, or the entity under the id that the raw value is, and this very
entity is read from it; a user has a member exactly if there is one under the same id. -/
inductive Directory.Plain (d : Directory) : Json → Argument → Json → Prop
  | string (text : String) : d.Plain (.string text) (.string text) (.string text)
  | boolean (b : Bool) : d.Plain (.bool b) (.boolean b) (.bool b)
  | integer {i : WideInt} {n : Int64} (h : n.toInt = i.val) : d.Plain (.int i) (.integer n) (.int i)
  | integral (i : WideInt) : d.Plain (.int i) (.number i.toFloat) (.float i.toFloat)
  | double (x : Float) : d.Plain (.float x) (.number x) (.float x)
  | user {id : String} {u : GuildUser} {entry : Json} (huser : d.users.get? id = some u.user)
      (hmember : d.members.get? id = u.member)
      (hread : ∀ m, GuildUser.codec.decode m entry = .ok u) :
      d.Plain (.string id) (.user u) entry
  | role {id : String} {r : Role} {entry : Json} (h : d.roles.get? id = some r)
      (hread : ∀ m, Role.codec.decode m entry = .ok r) :
      d.Plain (.string id) (.role r) entry
  | channel {id : String} {c : Channel} {entry : Json} (h : d.channels.get? id = some c)
      (hread : ∀ m, Channel.codec.decode m entry = .ok c) :
      d.Plain (.string id) (.channel c) entry

section

variable {d : Directory} {kind : Parameter.Kind} {value : Json} {v : Argument}

/-- What a value means has a plain value if the doubles in the value are finite. -/
theorem Directory.Means.isFinite (h : d.Means kind value v) (hvalue : value.HasFiniteDoubles) :
  v.IsFinite
  := by
  cases h with
  | integral i => exact Decimal.isFinite_toFloat i
  | double x => exact Json.hasFiniteDoubles_float_iff.mp hvalue
  | string | integer | boolean | user | role | channel | mentionableUser | mentionableRole =>
    trivial

/-- What a value means is written as a plain value that stands for it. -/
theorem Directory.Means.plain (h : d.Means kind value v) (hfinite : v.IsFinite) :
  d.Plain value v v.encode
  := by
  cases h with
  | string text => exact .string text
  | boolean b => exact .boolean b
  | @integer i n h =>
    have hencode : (Argument.integer n).encode = .int i := by
      have hi : WideInt.ofInt64 n = i := by
        obtain ⟨val, lower, upper⟩ := i
        cases h
        rfl
      rw [Argument.encode, hi]
    rw [hencode]
    exact .integer h
  | integral i =>
    rw [Argument.encode_number hfinite]
    exact .integral i
  | double x =>
    rw [Argument.encode_number hfinite]
    exact .double x
  | user h | mentionableUser h => exact .user h rfl (GuildUser.decode_encode _)
  | role h | mentionableRole _ h => exact .role h (Role.readsBack _)
  | channel h => exact .channel h (Channel.readsBack _)

end

namespace Arguments

variable {payload : Json} {s : Signature} {e : CommandEnvelope} {a : Arguments}

/-- In whatever order they are gone through, the arguments are written as an object that has the
plain value of each under its name. -/
theorem read_any (order : a.Order) :
  a.read order .any = .ok (.object (order.entries.map fun x => (x.1, x.2.encode)))
  := rfl

/-- An order has each name once. -/
theorem Order.nodup (order : a.Order) :
  (order.entries.map Prod.fst).Nodup
  := (order.perm.map Prod.fst).nodup_iff.mpr a.table.nodup

/-- Under a name an order has the argument of this name. -/
theorem Order.lookup_eq (order : a.Order) (name : String) :
  order.entries.lookup name = a.get? name
  := by
  apply Option.ext
  intro v
  rw [Table.lookup_eq_some_iff_mem order.nodup, order.perm.mem_iff, get?, Table.get?_eq_some_iff]

/-- What entries have under a name is written as the plain value of that. -/
theorem lookup_map {l : List (String × Argument)} {name : String} :
  (l.map fun x => (x.1, x.2.encode)).lookup name = (l.lookup name).map Argument.encode
  := by
  induction l with
  | nil => rfl
  | cons x rest ih =>
    obtain ⟨key, v⟩ := x
    rw [List.map_cons, Table.lookup_cons_eq, Table.lookup_cons_eq, ih]
    split_ifs with hname
    · rfl
    · rfl

/-- Under a name the object has the plain value of the argument of this name. -/
theorem Order.lookup_map (order : a.Order) (name : String) :
  (order.entries.map fun x => (x.1, x.2.encode)).lookup name = (a.get? name).map Argument.encode
  := by
  rw [Arguments.lookup_map, order.lookup_eq]

/-- What a name is bound to means what it is bound to, and the doubles of the payload are finite. -/
theorem exists_means_of_get? (hfinite : payload.HasFiniteDoubles)
    (hread : CommandEnvelope.codec.decode .direct payload = .ok e)
    (hresolve : resolve s e = .ok a) {name : String} {v : Argument} (hv : a.get? name = some v) :
  ∃ first, e.supplied? name = some first ∧ e.directory.Means first.kind first.value v
    ∧ v.IsFinite
  := by
  obtain ⟨p, -, first, hfirst, -, hbinds⟩ := (get?_of_resolve hresolve).mp hv
  have hmeans := Supplied.resolve_eq_ok_iff.mp hbinds
  have hvalue : first.value.HasFiniteDoubles :=
    CommandEnvelope.inherits Json.hereditary_hasFiniteDoubles .direct payload e hfinite hread first
      (List.mem_of_find?_eq_some hfirst)
  exact ⟨first, hfirst, hmeans, hmeans.isFinite hvalue⟩

/-- Arguments that were resolved for a command that was read from a payload are read, as plain
values and in whatever order they are gone through, as an object:

* it has the declared names that a value was given for, each once, and no others;
* under each name stands what the argument of this name is written as;
* that is the raw value given for it or, of an entity, a value from which this very entity is read;
* no other argument is written in this way;
* whatever arguments are written, in whatever order, as an object that has the same under every name
  are the same arguments. -/
theorem plain_values_exact (hfinite : payload.HasFiniteDoubles)
    (hread : CommandEnvelope.codec.decode .direct payload = .ok e)
    (hresolve : resolve s e = .ok a) (order : a.Order) :
  ∃ fields, a.read order .any = .ok (.object fields)
    ∧ (fields.map Prod.fst).Nodup
    ∧ (fields.map Prod.fst).Perm (s.names.filter fun name => (e.supplied? name).isSome)
    ∧ (∀ name entry, fields.lookup name = some entry
        ↔ ∃ v, a.get? name = some v ∧ v.encode = entry)
    ∧ (∀ name v, a.get? name = some v →
        ∃ first entry, e.supplied? name = some first ∧ fields.lookup name = some entry
          ∧ e.directory.Plain first.value v entry
          ∧ ∀ w : Argument, w.encode = entry → w = v)
    ∧ ∀ (a' : Arguments) (order' : a'.Order) (fields' : List (String × Json)),
        a'.read order' .any = .ok (.object fields') →
        (∀ name, fields'.lookup name = fields.lookup name) → ∀ name, a'.get? name = a.get? name
  := by
  have hkeys : (order.entries.map fun x => (x.1, x.2.encode)).map Prod.fst
      = order.entries.map Prod.fst := List.map_map
  refine ⟨_, a.read_any order, ?nodup, ?names, ?_, ?entry, ?arguments⟩
  case nodup =>
    rw [hkeys]
    exact order.nodup
  case names =>
    rw [hkeys, ← keys_of_resolve hresolve]
    exact order.perm.map Prod.fst
  · intro name entry
    rw [order.lookup_map, Option.map_eq_some_iff]
  case entry =>
    intro name v hv
    obtain ⟨first, hfirst, hmeans, hv'⟩ := exists_means_of_get? hfinite hread hresolve hv
    refine ⟨first, v.encode, hfirst, ?_, hmeans.plain hv', fun w => hv'.eq_of_encode_eq⟩
    rw [order.lookup_map, hv, Option.map_some]
  case arguments =>
    intro a' order' fields' ha' hsame name
    obtain rfl := Json.object.inj (Except.ok.inj ((a'.read_any order').symm.trans ha'))
    have hname := hsame name
    rw [order'.lookup_map, order.lookup_map] at hname
    cases hv : a.get? name with
    | none =>
      rw [hv, Option.map_none, Option.map_eq_none_iff] at hname
      exact hname
    | some v =>
      rw [hv, Option.map_some] at hname
      obtain ⟨w, hw, hencode⟩ := Option.map_eq_some_iff.mp hname
      obtain ⟨-, -, -, hfinite⟩ := exists_means_of_get? hfinite hread hresolve hv
      rw [hw, hfinite.eq_of_encode_eq hencode]

/-- A user who left the guild and one who is in it, a role, a channel of a kind that is not known,
and an integer that is asked for as a number, gone through from the last to the first. -/
theorem plain_values_exact_mixed :
  let option (name kind : String) (value : Json) :=
    Json.object [("name", .string name), ("kind", .string kind), ("value", value)]
  let user (id : String) := Json.object [("id", .string id), ("username", .string "ann")]
  let tables := Json.object [("users", .object [("7", user "7"), ("8", user "8")]),
    ("members", .object [("8", .object [("nick", .string "bo"), ("avatar", .null)])]),
    ("roles", .object [("9", .object [("id", .string "9"), ("name", .string "admin")])]),
    ("channels", .object [("5", .object [("id", .string "5"), ("name", .string "lobby"),
      ("kind", .string "Sphere")])])]
  let payload := Json.object [("id", .string "1"), ("token", .string "t"),
    ("channelId", .string "c"), ("name", .string "ban"), ("dataMap", tables),
    ("options", .array [option "where" "Channel" (.string "5"), option "who" "User" (.string "7"),
      option "by" "Mentionable" (.string "8"), option "as" "Mentionable" (.string "9"),
      option "days" "Number" (.int ⟨3, by decide, by decide⟩),
      option "now" "Boolean" (.bool true)])]
  let s : Signature :=
    { entries := [("who", .ofKind .user ""), ("by", .ofKind .mentionable ""),
        ("as", .ofKind .mentionable ""), ("why", .ofKind .string ""),
        ("days", .ofKind .number ""), ("where", .ofKind .channel "")]
      nodup := by decide }
  ∃ e a fields, payload.HasFiniteDoubles ∧ CommandEnvelope.codec.decode .direct payload = .ok e
    ∧ resolve s e = .ok a
    ∧ a.read ⟨a.table.entries.reverse, a.table.entries.reverse_perm⟩ .any = .ok (.object fields)
    ∧ (fields.map Prod.fst).Perm ["who", "by", "as", "days", "where"]
    ∧ (fields.map Prod.fst).head? = some "where"
    ∧ (∀ name v, a.get? name = some v →
        ∃ first entry, e.supplied? name = some first ∧ fields.lookup name = some entry
          ∧ e.directory.Plain first.value v entry
          ∧ ∀ w : Argument, w.encode = entry → w = v)
    ∧ ((a.user? "who").map fun u => u.member.isSome) = some false
    ∧ ((a.user? "by").map fun u => u.member.isSome) = some true
    ∧ ((a.role? "as").map (·.name)) = some "admin"
    ∧ ((a.channel? "where").map (·.kind)) = some .unknown
    ∧ ∀ (a' : Arguments) (order' : a'.Order) (fields' : List (String × Json)),
        a'.read order' .any = .ok (.object fields') →
        (∀ name, fields'.lookup name = fields.lookup name) → ∀ name, a'.get? name = a.get? name
  := by
  intro option user tables payload s
  have hfinite : payload.HasFiniteDoubles := by decide
  obtain ⟨e, he⟩ : ∃ e, CommandEnvelope.codec.decode .direct payload = .ok e := ⟨_, rfl⟩
  obtain ⟨a, ha⟩ : ∃ a, resolve s e = .ok a := by
    obtain rfl := Except.ok.inj he
    exact ⟨_, rfl⟩
  obtain ⟨fields, hfields, -, hnames, -, hentries, hunique⟩ := plain_values_exact hfinite he ha
    ⟨a.table.entries.reverse, a.table.entries.reverse_perm⟩
  have hdeclared : s.names.filter (fun name => (e.supplied? name).isSome)
      = ["who", "by", "as", "days", "where"] := by
    obtain rfl := Except.ok.inj he
    decide
  obtain ⟨hwho, hby, has, hwhere⟩ : ((a.user? "who").map fun u => u.member.isSome) = some false
      ∧ ((a.user? "by").map fun u => u.member.isSome) = some true
      ∧ ((a.role? "as").map (·.name)) = some "admin"
      ∧ ((a.channel? "where").map (·.kind)) = some .unknown := by
    obtain rfl := Except.ok.inj he
    obtain rfl := Except.ok.inj ha
    exact ⟨rfl, rfl, rfl, rfl⟩
  refine ⟨e, a, fields, hfinite, he, ha, hfields, hdeclared ▸ hnames, ?_, hentries, hwho, hby, has,
    hwhere, hunique⟩
  obtain rfl := Json.object.inj (Except.ok.inj hfields)
  obtain rfl := Except.ok.inj he
  obtain rfl := Except.ok.inj ha
  rfl

end Arguments

end InteractionRouting
