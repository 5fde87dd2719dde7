import InteractionRouting.Proofs.Catalogue.Admission
import InteractionRouting.Proofs.Service.Registration

/-!
# Which routers a service takes in

A router is taken in as a whole or not at all.  It is refused for the first of its commands whose
key a command of the service has.  So the commands of a service have distinct keys, whatever was
done with it, and they are still told apart when they are registered, where a command is known by
its name and by the names of the groups it is in.
-/

namespace InteractionRouting

namespace Service

variable {ν : Type}

/-- Commands that are told apart are still told apart when they are registered. -/
theorem nodup_places {s : Service ν} (h : (s.commands.map Command.key).Nodup) :
  (s.compile.commands.map Manifest.Command.place).Nodup
  := by
  rw [compile_eq_manifestOf]
  apply Catalogue.nodup_places_manifestOf h

/-- The first command that a service has, too, by its key. -/
theorem clash?_eq_some_iff {s : Service ν} {r : Router ν}
    {d : Command (CommandInput → Conduct ν)} :
  s.clash? r = some d ↔ ∃ before after, r.catalogue.commands = before ++ d :: after
    ∧ (∀ c ∈ before, c.key ∉ s.commands.map Command.key) ∧ d.key ∈ s.commands.map Command.key
  := by
  have hknown (c : Command (CommandInput → Conduct ν)) :
      (s.routers.any fun known => known.catalogue.contains c) = true
        ↔ c.key ∈ s.commands.map Command.key := by
    simp only [commands, List.any_eq_true, Catalogue.contains_iff, List.map_flatMap,
      List.mem_flatMap]
  rw [clash?, List.find?_eq_some_iff_append]
  simp only [hknown, Bool.not_eq_true', ← Bool.not_eq_true]
  constructor
  · rintro ⟨hd, before, after, hcommands, hbefore⟩
    exact ⟨before, after, hcommands, hbefore, hd⟩
  · rintro ⟨before, after, hcommands, hbefore, hd⟩
    exact ⟨hd, before, after, hcommands, hbefore⟩

/-- A router is refused for the first of its commands that is there already. -/
theorem addRouter_eq_error_iff {s : Service ν} {r : Router ν} {e : ClashError} :
  s.addRouter r = .error e ↔ ∃ d, s.clash? r = some d ∧ e = ⟨⟨d.path⟩⟩
  := by
  rw [addRouter]
  cases h : s.clash? r with
  | none => simp
  | some d => simp [eq_comm]

/-- A router that is taken in comes after the others, among the routers and among those that events
are handed to. -/
theorem eq_of_addRouter {s s' : Service ν} {r : Router ν} (h : s.addRouter r = .ok s') :
  s' = { s with
    routers := s.routers ++ [r]
    exchange := { s.exchange with parties := s.exchange.parties ++ [.router r] } }
  := by
  rw [addRouter] at h
  split at h
  · contradiction
  · exact (Except.ok.inj h).symm

/-- A router that is refused changes nothing. -/
theorem change_router_of_error {s : Service ν} {r : Router ν} {e : ClashError}
    (h : s.addRouter r = .error e) :
  s.change (.router r) = s
  := by
  rw [change, h]
  rfl

/-- A router that is not refused is taken in. -/
theorem change_router_of_ok {s s' : Service ν} {r : Router ν} (h : s.addRouter r = .ok s') :
  s.change (.router r) = s'
  := by
  rw [change, h]
  rfl

/-- A service is put together soundly whenever it was started in between. -/
theorem assembled_course {config : Config} {p : Platform} {registrar : Option Registrar}
    {opened : Service ν} (h : open? config p registrar = some opened) (steps : List (Step ν)) :
  (opened.course steps).service.Assembled
  := by
  have hunstarted : opened.started = false := by
    rw [open?, Option.ite_none_right_eq_some, Option.some.injEq] at h
    obtain ⟨-, rfl⟩ := h
    rfl
  have hassembled := (assembled_open h).assemble (steps.filterMap Step.change?)
  rw [(orderly_course hunstarted steps).service_eq]
  exact ⟨hassembled.nodup, hassembled.parties⟩

/-- Whatever was done with a service that was opened, which routers were taken in or refused, and
whether it was started in between:

* The keys of its commands are distinct, and so are the names and groups under which they are
  registered.
* Events are handed to its routers, in the same order.
* A router is refused just in case one of its commands has the key of a command of a router that
  is there already.  The error names the first such command by its path.
* A router that is refused might as well not have been tried, whatever is done then.
* One that is taken in comes last, among the routers and among those that events are handed to. -/
theorem routers_taken_in_whole {config : Config} {p : Platform} {registrar : Option Registrar}
    {opened : Service ν} (h : open? config p registrar = some opened) (steps : List (Step ν))
    (r : Router ν) :
  let s := (opened.course steps).service
  (s.commands.map Command.key).Nodup
    ∧ (s.compile.commands.map Manifest.Command.place).Nodup
    ∧ s.exchange.parties.filterMap Party.router? = s.routers
    ∧ ((∃ e, s.addRouter r = .error e) ↔ ∃ d ∈ r.catalogue.commands, ∃ known ∈ s.routers,
        ∃ c ∈ known.catalogue.commands, c.key = d.key)
    ∧ (∀ e, s.addRouter r = .error e ↔ ∃ before d after,
        r.catalogue.commands = before ++ d :: after
          ∧ (∀ c ∈ before, c.key ∉ s.commands.map Command.key)
          ∧ d.key ∈ s.commands.map Command.key ∧ e = ⟨⟨d.path⟩⟩)
    ∧ (∀ e, s.addRouter r = .error e → s.change (.router r) = s
        ∧ ∀ later, opened.course (steps ++ .change (.router r) :: later)
          = opened.course (steps ++ later))
    ∧ ∀ s', s.addRouter r = .ok s' → s.change (.router r) = s'
        ∧ s' = { s with
            routers := s.routers ++ [r]
            exchange := { s.exchange with parties := s.exchange.parties ++ [.router r] } }
  := by
  intro s
  have hassembled : s.Assembled := assembled_course h steps
  refine ⟨hassembled.nodup, nodup_places hassembled.nodup, hassembled.parties, ?_, ?_, ?_, ?_⟩
  · have hclash : (∃ e, s.addRouter r = .error e) ↔ ¬s.clash? r = none := by
      rw [addRouter]
      cases s.clash? r with
      | none => simp
      | some d => simp
    rw [hclash, clash?_eq_none_iff]
    simp only [commands, List.mem_map, List.mem_flatMap, not_forall, not_not, exists_prop]
    constructor
    · rintro ⟨d, hd, c, ⟨known, hknown, hc⟩, hkey⟩
      exact ⟨d, hd, known, hknown, c, hc, hkey⟩
    · rintro ⟨d, hd, known, hknown, c, hc, hkey⟩
      exact ⟨d, hd, c, ⟨known, hknown, hc⟩, hkey⟩
  · intro e
    simp only [addRouter_eq_error_iff, clash?_eq_some_iff]
    constructor
    · rintro ⟨d, ⟨before, after, hcommands, hbefore, hd⟩, he⟩
      exact ⟨before, d, after, hcommands, hbefore, hd, he⟩
    · rintro ⟨before, d, after, hcommands, hbefore, hd, he⟩
      exact ⟨d, ⟨before, after, hcommands, hbefore, hd⟩, he⟩
  · intro e he
    have hsame : s.change (.router r) = s := change_router_of_error he
    use hsame
    intro later
    simp only [course, List.foldl_append, List.foldl_cons]
    apply congrArg (List.foldl Course.next · later)
    exact congrArg (Course.mk · _) hsame
  · intro s' hs'
    exact ⟨change_router_of_ok hs', eq_of_addRouter hs'⟩

/-- Commands of one name in different groups: the second router is refused for the first of two
commands, although another one of its commands is new, and the third router is taken in. -/
theorem routers_taken_in_whole_same_names :
  let command (g : Option Group) (name : String) : Command (CommandInput → Conduct Unit) :=
    ⟨name, "", .chat, g, .empty, fun _ => .giving (.finish .success)⟩
  let router (name : String) (commands : List (Command (CommandInput → Conduct Unit))) :
      Router Unit := { Router.named name with catalogue := Catalogue.empty.addAll commands }
  let mod := Group.top "mod" "Moderation"
  let soft := Group.nested "mod" "Moderation" "soft" "Soft"
  let first := router "a" [command mod "ban", command soft "ban"]
  let second := router "b" [command none "ban", command soft "ban", command mod "ban"]
  let third := router "c" [command none "ban", command (some (.top "soft" "")) "ban"]
  ∃ opened : Service Unit, open? .standard obliging none = some opened
    ∧ let s := (opened.course [.change (.router first), .change (.router second), .start]).service
      s.routers.map (·.name) = ["a"]
        ∧ s.addRouter second = .error ⟨⟨"mod soft ban"⟩⟩
        ∧ ∃ s', s.addRouter third = .ok s'
          ∧ s'.exchange.parties.filterMap Party.router? = [first, third]
          ∧ (s'.compile.commands.map Manifest.Command.place).Nodup
  := by
  intro command router mod soft first second third
  obtain ⟨opened, hopen⟩ : ∃ opened : Service Unit, open? .standard obliging none = some opened :=
    ⟨_, rfl⟩
  use opened, hopen
  intro s
  obtain ⟨-, -, -, -, -, -, hadded⟩ := routers_taken_in_whole hopen
    [.change (.router first), .change (.router second), .start] third
  obtain ⟨-, hplaces, -⟩ := routers_taken_in_whole hopen
    [.change (.router first), .change (.router second), .start, .change (.router third)] third
  obtain rfl := Option.some.inj hopen
  obtain ⟨s', hs'⟩ : ∃ s', s.addRouter third = .ok s' := ⟨_, rfl⟩
  refine ⟨rfl, rfl, s', hs', ?_, ?_⟩
  · rw [(hadded s' hs').2]
    rfl
  · rw [← (hadded s' hs').1]
    exact hplaces

end Service

end InteractionRouting
