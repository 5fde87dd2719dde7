import InteractionRouting.Outcome
import Mathlib.Tactic.Common

/-!
# How handlers and subscribers go

What happens when a handler is run, and how it ends, by rules for each step that it can take: it
panics on the call, or gives its work, which leaves notes, carries out operations one after the
other, and ends.  Each handler goes in one way.

An ending is reported as a success, or with an error or a panic.  Of one ending nothing is reported,
for a panic gets out of the guard: an error was returned that panics when it is asked for what it
says.
-/

namespace InteractionRouting

variable {ν : Type}

/-! ### Endings -/

namespace Ending

/-- It is reported with an error, and as a panic or not. -/
inductive Fails : Ending → String → Bool → Prop
  /-- An error was returned that says something. -/
  | returned {error : HandlerError} {text : String} (h : error.told = .ok text) :
      Fails (.failure error) text false
  /-- There was a panic with a text. -/
  | panicked (text : String) : Fails (.panic (.text text)) text true
  /-- There was a panic with something else. -/
  | panickedOtherwise : Fails (.panic .other) "handler panicked" true

/-- A panic gets out: an error was returned that panics when it is asked for what it says. -/
inductive Escapes : Ending → Prop
  | untold {error : HandlerError} {panic : Panic} (h : error.told = .error panic) :
      Escapes (.failure error)

/-- What is reported of a run that ends in this way, under a label: that there was one, and if it
fails, one failure; or nothing, if a panic gets out. -/
inductive Reported (target tag label : String) : Ending → Option Outcome → Prop
  | success : Reported target tag label .success (some ⟨1, []⟩)
  | failure {ending : Ending} {error : String} {panicked : Bool} (h : ending.Fails error panicked) :
      Reported target tag label ending (some ⟨1, [⟨target, tag, label, error, panicked⟩]⟩)
  | nothing {ending : Ending} (h : ending.Escapes) : Reported target tag label ending none

/-- Of every ending something is reported, or it escapes. -/
theorem exists_reported (target tag label : String) (ending : Ending) :
  ∃ outcome, ending.Reported target tag label outcome
  := by
  cases ending with
  | success => exact ⟨_, .success⟩
  | failure error =>
    cases htold : error.told with
    | error panic => exact ⟨_, .nothing (.untold htold)⟩
    | ok text => exact ⟨_, .failure (.returned htold)⟩
  | panic cause =>
    cases cause with
    | text text => exact ⟨_, .failure (.panicked text)⟩
    | other => exact ⟨_, .failure .panickedOtherwise⟩

variable {target tag label : String} {ending : Ending} {outcome : Option Outcome}

/-- What is reported of a run is what the guard leaves of it. -/
theorem Reported.ofRun_eq (h : ending.Reported target tag label outcome)
    (happenings : List (Happening ν)) :
  Delivery.ofRun target tag label ending happenings = ⟨outcome, happenings⟩
  := by
  cases h with
  | success => rfl
  | failure h =>
    cases h with
    | returned htold =>
      rw [Delivery.ofRun, guarded, htold]
      rfl
    | panicked | panickedOtherwise => rfl
  | nothing h =>
    cases h with
    | untold htold =>
      rw [Delivery.ofRun, guarded, htold]
      rfl

/-- Of an ending one thing is reported. -/
theorem Reported.unique {outcome' : Option Outcome}
    (h : ending.Reported target tag label outcome)
    (h' : ending.Reported target tag label outcome') :
  outcome = outcome'
  := by
  have heq := (h.ofRun_eq ([] : List (Happening Unit))).symm.trans (h'.ofRun_eq [])
  apply congrArg Delivery.outcome heq

/-- A run that fails does not succeed. -/
theorem Fails.ne_success {error : String} {panicked : Bool} (h : ending.Fails error panicked) :
  ending ≠ .success
  := by
  cases h with
  | returned | panicked | panickedOtherwise => nofun

/-- Where nothing is reported an error was returned that panics when asked for what it says. -/
theorem Reported.exists_panic (h : ending.Reported target tag label none) :
  ∃ error : HandlerError, ending = .failure error ∧ ∃ panic, error.told = .error panic
  := by
  cases h with
  | nothing h =>
    cases h with
    | untold hpanic => exact ⟨_, rfl, _, hpanic⟩

end Ending

/-! ### Runs -/

/-- A call goes in this way: it leaves notes, and then it panics, or what it gives is run and goes
as that does. -/
inductive Attempt.Goes {α : Type} (goes : α → List (Happening ν) → Ending → Prop) :
    Attempt ν α → List (Happening ν) → Ending → Prop
  | onCall (called : List ν) (panic : Panic) :
      Goes goes ⟨called, .error panic⟩ (called.map .note) (.panic panic)
  | given (called : List ν) {a : α} {happenings : List (Happening ν)} {ending : Ending}
      (h : goes a happenings ending) :
      Goes goes ⟨called, .ok a⟩ (called.map .note ++ happenings) ending

/-- The work of a handler goes in this way for an interaction, after the platform calls made
before.  The first three arguments change on the way. -/
inductive Work.Goes (p : Platform) :
    List Call → Interaction → Work ν → List (Happening ν) → Ending → Prop
  | finish (past : List Call) (i : Interaction) (ending : Ending) :
      Goes p past i (.finish ending) [] ending
  | note {past : List Call} {i : Interaction} {entry : ν} {next : Work ν}
      {happenings : List (Happening ν)} {ending : Ending}
      (h : Goes p past i next happenings ending) :
      Goes p past i (.note entry next) (.note entry :: happenings) ending
  /-- An operation out of turn makes no call. -/
  | refused {past : List Call} {i : Interaction} {op : Operation} {next : Reply → Progress → Work ν}
      {happenings : List (Happening ν)} {ending : Ending}
      (hnone : (i.perform p past op).call = none)
      (h : Goes p past (i.perform p past op).interaction
        (next (i.perform p past op).reply (i.perform p past op).interaction.progress) happenings
        ending) :
      Goes p past i (.perform op next) happenings ending
  | made {past : List Call} {i : Interaction} {op : Operation} {next : Reply → Progress → Work ν}
      {call : Call} {happenings : List (Happening ν)} {ending : Ending}
      (hcall : (i.perform p past op).call = some call)
      (h : Goes p (past ++ [call]) (i.perform p past op).interaction
        (next (i.perform p past op).reply (i.perform p past op).interaction.progress) happenings
        ending) :
      Goes p past i (.perform op next) (.call call :: happenings) ending

/-- A handler goes in this way. -/
def Conduct.Goes (p : Platform) (past : List Call) (i : Interaction) (c : Conduct ν)
    (happenings : List (Happening ν)) (ending : Ending) : Prop :=
  Attempt.Goes (Work.Goes p past i) c happenings ending

/-- What a subscriber gives to be run goes in this way. -/
inductive Errand.Goes : Errand ν → List (Happening ν) → Ending → Prop
  | all (notes : List ν) (ending : Ending) : Goes ⟨notes, ending⟩ (notes.map .note) ending

section

variable {p : Platform} {past : List Call} {i : Interaction} {happenings : List (Happening ν)}
  {ending : Ending}

/-- The work of a handler goes in one way, namely as it is run. -/
theorem Work.goes_iff {work : Work ν} :
  Goes p past i work happenings ending
    ↔ happenings = (work.run p past i).happenings ∧ ending = (work.run p past i).ending
  := by
  constructor
  · intro h
    induction h with
    | finish => exact ⟨rfl, rfl⟩
    | note _ ih =>
      obtain ⟨rfl, rfl⟩ := ih
      exact ⟨rfl, rfl⟩
    | refused hnone _ ih =>
      obtain ⟨rfl, rfl⟩ := ih
      simp only [run, hnone, Option.toList_none, List.append_nil, List.map_nil, List.nil_append,
        and_self]
    | made hcall _ ih =>
      obtain ⟨rfl, rfl⟩ := ih
      simp only [run, hcall, Option.toList_some, List.map_cons, List.map_nil, List.cons_append,
        List.nil_append, and_self]
  · rintro ⟨rfl, rfl⟩
    induction work generalizing past i with
    | finish ending => exact .finish past i ending
    | note entry next ih => exact .note ih
    | perform op next ih =>
      rw [run]
      cases hcall : (i.perform p past op).call with
      | none =>
        simp only [Option.toList_none, List.append_nil, List.map_nil, List.nil_append]
        exact .refused hcall (ih _ _)
      | some call => exact .made hcall (ih _ _)

/-- A handler goes in one way, namely as it is run. -/
theorem Conduct.goes_iff {c : Conduct ν} :
  c.Goes p past i happenings ending
    ↔ happenings = (c.run p past i).happenings ∧ ending = (c.run p past i).ending
  := by
  obtain ⟨called, given⟩ := c
  cases given with
  | error panic =>
    constructor
    · rintro ⟨⟩
      exact ⟨rfl, rfl⟩
    · rintro ⟨rfl, rfl⟩
      exact .onCall called panic
  | ok work =>
    constructor
    · rintro (_ | ⟨_, h⟩)
      obtain ⟨rfl, rfl⟩ := Work.goes_iff.mp h
      exact ⟨rfl, rfl⟩
    · rintro ⟨rfl, rfl⟩
      exact .given called (Work.goes_iff.mpr ⟨rfl, rfl⟩)

/-- Every handler goes in some way. -/
theorem Conduct.goes_run (p : Platform) (past : List Call) (i : Interaction) (c : Conduct ν) :
  c.Goes p past i (c.run p past i).happenings (c.run p past i).ending
  := goes_iff.mpr ⟨rfl, rfl⟩

/-- A subscriber goes in one way, namely as it is run. -/
theorem Errand.goes_iff {a : Attempt ν (Errand ν)} :
  a.Goes Errand.Goes happenings ending
    ↔ happenings = (ofAttempt a).notes.map .note ∧ ending = (ofAttempt a).ending
  := by
  obtain ⟨called, given⟩ := a
  cases given with
  | error panic =>
    constructor
    · rintro ⟨⟩
      exact ⟨rfl, rfl⟩
    · rintro ⟨rfl, rfl⟩
      exact .onCall called panic
  | ok errand =>
    simp only [ofAttempt, List.map_append]
    constructor
    · rintro (_ | ⟨_, ⟨notes, ending⟩⟩)
      exact ⟨rfl, rfl⟩
    · rintro ⟨rfl, rfl⟩
      exact .given called (.all errand.notes errand.ending)

/-- Every subscriber goes in some way. -/
theorem Errand.goes_ofAttempt (a : Attempt ν (Errand ν)) :
  a.Goes Errand.Goes ((ofAttempt a).notes.map .note) (ofAttempt a).ending
  := goes_iff.mpr ⟨rfl, rfl⟩

end

end InteractionRouting
