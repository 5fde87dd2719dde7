import InteractionRouting.Proofs.Arguments.Getters
import InteractionRouting.Proofs.Command.Building
import InteractionRouting.Proofs.Router.Outcomes

/-!
# What the handler of a command is given

The handler of a command is run with arguments that were resolved for the parameters which the
command declares.  So it finds what the declarations promise, whatever the payload and whichever
router the command is in.
-/

namespace InteractionRouting

/-- Arguments are for the values of an envelope what the declared parameters promise. -/
structure Arguments.AsDeclared (a : Arguments) (declared : List (String × Parameter))
    (e : CommandEnvelope) : Prop where
  /-- The getter of the kind of a parameter gives something exactly if a value was given for the
  parameter. -/
  given : ∀ name p, (name, p) ∈ declared →
    (a.has name p.kind = true ↔ ∃ x ∈ e.supplied, x.name = name)
  /-- So does the getter of numbers for an integer. -/
  integer : ∀ name p, (name, p) ∈ declared → p.kind = .integer →
    (a.has name .number = true ↔ ∃ x ∈ e.supplied, x.name = name)
  required : ∀ name p, (name, p) ∈ declared → p.required = true → a.has name p.kind = true
  /-- A user stands in the directory under the id that was given, and its member under the same
  id. -/
  user : ∀ name u, a.user? name = some u ∨ a.mentionable? name = some (.user u) →
    ∃ first id, e.supplied? name = some first ∧ first.value = .string id
      ∧ e.directory.users.get? id = some u.user ∧ u.member = e.directory.members.get? id
  undeclared : ∀ name, name ∉ declared.map Prod.fst →
    a.get? name = none ∧ ∀ kind, a.has name kind = false

/-- Arguments that resolve are as they were declared. -/
theorem Arguments.asDeclared_of_resolve {s : Signature} {e : CommandEnvelope} {a : Arguments}
    (h : resolve s e = .ok a) :
  a.AsDeclared s.entries e
  where
  given name p hp := has_kind_iff h (Signature.get?_eq_some_iff.mpr hp)
  integer name p hp := has_number_iff h (Signature.get?_eq_some_iff.mpr hp)
  required name p hp := has_of_required h (Signature.get?_eq_some_iff.mpr hp)
  user name u := user_of_resolve h
  undeclared name hname := by
    have hnone := get?_of_not_declared h hname
    use hnone
    intro kind
    rw [has_eq_any, hnone]
    rfl

namespace Router

variable {ν : Type} {r : Router ν} {payload : Json} {e : CommandEnvelope}
  {c : Command (CommandInput → Conduct ν)} {i : Invocation ν}

/-- What is run for an envelope that names a command is the handler of this command, with
arguments that were resolved for its signature. -/
theorem Calls.exists_conduct_eq (h : r.Calls payload Event.commandTag i)
    (hread : CommandEnvelope.codec.decode .direct payload = .ok e)
    (hmem : c ∈ r.catalogue.commands) (hnamed : Catalogue.IsNamedBy c e) :
  ∃ target a, i.conduct = c.handler ⟨e, target, a⟩ ∧ Arguments.resolve c.signature e = .ok a
  := by
  generalize htag : Event.commandTag = tag at h
  cases h with
  | @command e' c' a target hread' hmem' hnamed' harguments htarget =>
    obtain rfl := Except.ok.inj (hread.symm.trans hread')
    obtain rfl := Catalogue.eq_of_key_eq hmem hmem' (hnamed.key_eq.trans hnamed'.key_eq.symm)
    exact ⟨target, a, rfl, harguments⟩
  | button => contradiction
  | selectMenu => contradiction
  | modal => contradiction

/-- However a chat command was put together, whichever router it is in and whatever the payload
is: if its handler is run it is given arguments that are what its declarations promise. -/
theorem arguments_as_declared {name description : String} {steps : List Command.Draft.Step}
    {handler : CommandInput → Conduct ν}
    (hbuild : ((Command.Draft.chat name description).applyAll steps).build handler = .ok c)
    (hmem : c ∈ r.catalogue.commands)
    (hread : CommandEnvelope.codec.decode .direct payload = .ok e)
    (hnamed : Catalogue.IsNamedBy c e) (hi : i ∈ r.invocations Event.commandTag payload) :
  ∃ target a, i.conduct = handler ⟨e, target, a⟩
    ∧ a.AsDeclared (steps.filterMap Command.Draft.Step.declaration?) e
  := by
  obtain ⟨hentries, rfl⟩ := Command.Draft.entries_of_build hbuild
  have hcalls := mem_invocations_iff.mp hi
  obtain ⟨target, a, hconduct, hresolve⟩ := hcalls.exists_conduct_eq hread hmem hnamed
  use target, a, hconduct
  rw [← hentries]
  apply Arguments.asDeclared_of_resolve hresolve

/-- A user and an integer are given, with a second value under the name of the integer and a value
that is not declared; the reason is left out. -/
theorem arguments_as_declared_in_group :
  let who : Parameter := { Parameter.ofKind .mentionable "" with required := true }
  let steps := [Command.Draft.Step.parameter "who" who, .group (.top "mod" ""),
    .parameter "days" (.ofKind .integer ""), .parameter "why" (.ofKind .string "")]
  let handler : CommandInput → Conduct Argument := fun input =>
    .giving ((input.arguments.get? "who").elim (.finish .success) (.note · (.finish .success)))
  let router (c : Command (CommandInput → Conduct Argument)) : Router Argument :=
    { named "router" with catalogue := Catalogue.empty.addAll [c] }
  let option (name kind : String) (value : Json) :=
    Json.object [("name", .string name), ("kind", .string kind), ("value", value)]
  let user := Json.object [("id", .string "7"), ("username", .string "ann")]
  let payload := Json.object [("id", .string "1"), ("token", .string "t"),
    ("channelId", .string "c"), ("name", .string "ban"), ("parentName", .string "mod"),
    ("options", .array [option "days" "Integer" (.int ⟨2, by decide, by decide⟩),
      option "other" "Boolean" (.bool true), option "who" "Mentionable" (.string "7"),
      option "days" "String" (.string "3")]),
    ("dataMap", .object [("users", .object [("7", user)])])]
  ∃ c e i, ((Command.Draft.chat "ban" "").applyAll steps).build handler = .ok c
    ∧ CommandEnvelope.codec.decode .direct payload = .ok e
    ∧ (router c).invocations Event.commandTag payload = [i]
    ∧ ∃ target a, i.conduct = handler ⟨e, target, a⟩
      ∧ a.AsDeclared (steps.filterMap Command.Draft.Step.declaration?) e
      ∧ a.has "who" .mentionable = true ∧ a.has "days" .number = true
      ∧ a.has "why" .string = false ∧ a.get? "other" = none
  := by
  intro who steps handler router option user payload
  obtain ⟨c, hbuild⟩ : ∃ c, ((Command.Draft.chat "ban" "").applyAll steps).build handler = .ok c :=
    ⟨_, rfl⟩
  obtain ⟨e, hread⟩ : ∃ e, CommandEnvelope.codec.decode .direct payload = .ok e := ⟨_, rfl⟩
  obtain ⟨i, hi⟩ : ∃ i, (router c).invocations Event.commandTag payload = [i] := by
    obtain rfl := Except.ok.inj hbuild
    exact ⟨_, rfl⟩
  have hmem : c ∈ (router c).catalogue.commands := List.mem_singleton_self c
  have hnamed : Catalogue.IsNamedBy c e := by
    obtain rfl := Except.ok.inj hbuild
    obtain rfl := Except.ok.inj hread
    exact ⟨rfl, rfl, rfl, rfl⟩
  have hwhy : ¬ ∃ x ∈ e.supplied, x.name = "why" := by
    obtain rfl := Except.ok.inj hread
    decide
  have hdays : ∃ x ∈ e.supplied, x.name = "days" := by
    obtain rfl := Except.ok.inj hread
    decide
  have hdeclared : steps.filterMap Command.Draft.Step.declaration?
      = [("who", who), ("days", .ofKind .integer ""), ("why", .ofKind .string "")] := rfl
  obtain ⟨target, a, hconduct, ha⟩ := arguments_as_declared hbuild hmem hread hnamed
    (hi ▸ List.mem_singleton_self i)
  refine ⟨c, e, i, hbuild, hread, hi, target, a, hconduct, ha, ?_, ?_, ?_, ?_⟩
  · apply ha.required "who" who (by simp [hdeclared]) rfl
  · apply (ha.integer "days" (.ofKind .integer "") (by simp [hdeclared]) rfl).mpr hdays
  · rw [← Bool.not_eq_true]
    apply mt (ha.given "why" (.ofKind .string "") (by simp [hdeclared])).mp hwhy
  · apply (ha.undeclared "other" (by simp [hdeclared])).1

end Router

end InteractionRouting
