import InteractionRouting.Service
import InteractionRouting.Proofs.Catalogue.Compilation

/-!
# Services as they are put together

A service is opened and then changed: it takes in routers and fanouts, and its registrar and its
reporter are set.  Whatever the changes were, and whichever routers were refused, no two commands
of its routers have one key, and the routers that events are handed to are those whose commands
are registered.  So the commands of all routers make up one catalogue, and what is registered of
the service is what is registered of that catalogue.
-/

namespace InteractionRouting

/-! ### Catalogues of distinct commands -/

/-- Commands with new and distinct keys are all added, in order. -/
theorem Catalogue.commands_addAll {η : Type} {c : Catalogue η} {added : List (Command η)}
    (h : ((c.commands ++ added).map Command.key).Nodup) :
  (c.addAll added).commands = c.commands ++ added
  := by
  induction added generalizing c with
  | nil => simp [addAll]
  | cons d rest ih =>
    have hnew : d.key ∉ c.commands.map Command.key := by
      rw [List.map_append, List.nodup_append] at h
      intro hmem
      apply h.2.2 d.key hmem d.key (by simp) rfl
    obtain ⟨c', hadd, hcommands⟩ := add_of_notMem hnew
    have hrest : ((c'.commands ++ rest).map Command.key).Nodup := by
      rw [hcommands, List.append_assoc]
      apply h
    have hall : c.addAll (d :: rest) = c'.addAll rest := by
      rw [addAll, List.foldl_cons, hadd]
      rfl
    rw [hall, ih hrest, hcommands, List.append_assoc, List.singleton_append]

/-- The router, if the party is one. -/
def Party.router? {ν : Type} : Party ν → Option (Router ν)
  | router r => some r
  | fanout _ => none

namespace Service

variable {ν : Type}

/-! ### Changes -/

/-- What is done to a service before it starts. -/
inductive Change (ν : Type) where
  | router (router : Router ν)
  | fanout (fanout : Fanout ν)
  | registrar (registrar : Registrar)
  | reporter (reporter : Failure → Reaction ν)

/-- The service after a change.  A router that is refused changes nothing. -/
def change (s : Service ν) : Change ν → Service ν
  | .router r => (s.addRouter r).toOption.getD s
  | .fanout f => s.addFanout f
  | .registrar r => s.setRegistrar r
  | .reporter reporter => s.setReporter reporter

/-- The service after changes, one after the other. -/
def assemble (s : Service ν) (changes : List (Change ν)) : Service ν := changes.foldl change s

/-- The commands of all routers, in order. -/
def commands (s : Service ν) : List (Command (CommandInput → Conduct ν)) :=
  s.routers.flatMap (·.catalogue.commands)

/-- A router is refused exactly if one of its commands has the key of a command that is there
already. -/
theorem clash?_eq_none_iff {s : Service ν} {r : Router ν} :
  s.clash? r = none ↔ ∀ d ∈ r.catalogue.commands, d.key ∉ s.commands.map Command.key
  := by
  simp only [clash?, commands, List.find?_eq_none, List.any_eq_true, Catalogue.contains_iff,
    List.map_flatMap, List.mem_flatMap]

/-- A router with a command that is there already changes nothing. -/
theorem change_router_of_clash {s : Service ν} {r : Router ν} (h : s.clash? r ≠ none) :
  s.change (.router r) = s
  := by
  obtain ⟨d, hd⟩ := Option.ne_none_iff_exists'.mp h
  rw [change, addRouter, hd]
  rfl

/-- A router with new commands only is taken in, after all others. -/
theorem change_router_of_no_clash {s : Service ν} {r : Router ν} (h : s.clash? r = none) :
  s.change (.router r)
    = { s with routers := s.routers ++ [r], exchange := s.exchange.add (.router r) }
  := by
  rw [change, addRouter, h]
  rfl

/-! ### What holds of a service however it was put together -/

/-- A service as it may be put together. -/
structure Assembled (s : Service ν) : Prop where
  /-- No two commands of its routers have one key. -/
  nodup : (s.commands.map Command.key).Nodup
  /-- Events are handed to its routers, in order. -/
  parties : s.exchange.parties.filterMap Party.router? = s.routers

/-- A service that was opened has no routers. -/
theorem assembled_open {config : Config} {p : Platform} {registrar : Option Registrar}
    {s : Service ν} (h : open? config p registrar = some s) :
  s.Assembled
  := by
  rw [open?, Option.ite_none_right_eq_some, Option.some.injEq] at h
  obtain ⟨-, rfl⟩ := h
  constructor
  · apply List.nodup_nil
  · rfl

/-- A router without a clash brings new commands, and comes after the other routers. -/
theorem Assembled.addRouter {s : Service ν} (h : s.Assembled) {r : Router ν}
    (hclash : s.clash? r = none) :
  (s.change (.router r)).Assembled
  := by
  rw [change_router_of_no_clash hclash]
  rw [clash?_eq_none_iff] at hclash
  constructor
  · rw [commands, List.flatMap_append, List.flatMap_singleton, ← commands, List.map_append,
      List.nodup_append]
    refine ⟨h.nodup, r.catalogue.nodup, ?_⟩
    rintro key hkey _ hkey' rfl
    obtain ⟨d, hd, rfl⟩ := List.mem_map.mp hkey'
    apply hclash d hd hkey
  · rw [Exchange.add, List.filterMap_append, h.parties]
    rfl

/-- Whatever is taken in, the service stays in order. -/
theorem Assembled.change {s : Service ν} (h : s.Assembled) (c : Change ν) :
  (s.change c).Assembled
  := by
  cases c with
  | router r =>
    by_cases hclash : s.clash? r = none
    · apply h.addRouter hclash
    · rw [change_router_of_clash hclash]
      apply h
  | fanout f =>
    constructor
    · apply h.nodup
    · rw [Service.change, addFanout, Exchange.add, List.filterMap_append, h.parties]
      apply List.append_nil
  | registrar r => exact ⟨h.nodup, h.parties⟩
  | reporter reporter => exact ⟨h.nodup, h.parties⟩

/-- However a service is put together, it stays in order. -/
theorem Assembled.assemble {s : Service ν} (h : s.Assembled) (changes : List (Change ν)) :
  (s.assemble changes).Assembled
  := by
  induction changes generalizing s with
  | nil => apply h
  | cons c changes ih => apply ih (h.change c)

/-! ### What is registered -/

/-- The manifests of the routers, one after the other, are the manifest of all their
commands. -/
theorem compile_eq_manifestOf (s : Service ν) :
  s.compile = Catalogue.manifestOf s.commands
  := by
  have hfoldl (routers : List (Router ν)) (before : List (Command (CommandInput → Conduct ν))) :
      routers.foldl (fun m r => m.append r.compile) (Catalogue.manifestOf before)
        = Catalogue.manifestOf (before ++ routers.flatMap (·.catalogue.commands)) := by
    induction routers generalizing before with
    | nil => rw [List.flatMap_nil, List.append_nil, List.foldl_nil]
    | cons r routers ih =>
      rw [List.foldl_cons, Router.compile, Catalogue.compile, ← Catalogue.manifestOf_append, ih,
        List.append_assoc, List.flatMap_cons]
  apply hfoldl s.routers []

/-- However a service was put together, and whichever routers were refused: the commands of its
routers make up one catalogue, in which none of them is refused, and what is registered of the
service is what is registered of that catalogue, in the same order and with the same
descriptions. -/
theorem compile_eq_compile_addAll {config : Config} {p : Platform} {registrar : Option Registrar}
    {opened : Service ν} (h : open? config p registrar = some opened)
    (changes : List (Change ν)) :
  let s := opened.assemble changes
  let whole := (Catalogue.empty : Catalogue (CommandInput → Conduct ν)).addAll s.commands
  whole.commands = s.routers.flatMap (·.catalogue.commands) ∧ s.compile = whole.compile
  := by
  intro s whole
  have hs : s.Assembled := (assembled_open h).assemble changes
  have hcommands : whole.commands = s.commands := Catalogue.commands_addAll hs.nodup
  use hcommands
  rw [compile_eq_manifestOf, Catalogue.compile, hcommands]

/-- A platform that refuses nothing. -/
def obliging : Platform := ⟨fun _ _ => none, fun _ _ => ⟨"", "", "", none, []⟩⟩

/-- Three routers with commands in groups of one name: the second is refused for a command of the
first, and the third describes the group in another way and adds to it. -/
theorem compile_eq_compile_addAll_one_refused :
  let command (name : String) (g : Group) : Command (CommandInput → Conduct Unit) :=
    ⟨name, "", .chat, some g, .empty, fun _ => .giving (.finish .success)⟩
  let router (name : String) (commands : List (Command (CommandInput → Conduct Unit))) :
      Router Unit := { Router.named name with catalogue := Catalogue.empty.addAll commands }
  let soft := Group.nested "mod" "Moderation" "soft" "Soft"
  let changes := [Change.router (router "a" [command "warn" soft, command "ban" (.top "mod" "")]),
    .router (router "b" [command "kick" soft, command "warn" soft]),
    .router (router "c" [command "kick" (.nested "mod" "Other" "hard" "Hard"),
      command "mute" (.nested "mod" "Other" "soft" "Softer")])]
  ∃ opened : Service Unit, open? .standard obliging none = some opened
    ∧ let s := opened.assemble changes
      s.routers.map (·.name) = ["a", "c"]
        ∧ s.compile = (Catalogue.empty.addAll s.commands).compile
        ∧ s.compile.commands.map (fun c => (c.name, c.group, c.subGroup))
          = [("warn", some "mod", some "soft"), ("ban", some "mod", none),
            ("kick", some "mod", some "hard"), ("mute", some "mod", some "soft")]
        ∧ s.compile.groups = [⟨"mod", "Moderation", [⟨"soft", "Soft"⟩, ⟨"hard", "Hard"⟩]⟩]
  := by
  intro command router soft changes
  obtain ⟨opened, hopen⟩ : ∃ opened : Service Unit, open? .standard obliging none = some opened :=
    ⟨_, rfl⟩
  use opened, hopen
  obtain ⟨-, hcompile⟩ := compile_eq_compile_addAll hopen changes
  obtain rfl := Option.some.inj hopen
  exact ⟨rfl, hcompile, rfl, rfl⟩

end Service

end InteractionRouting
