import InteractionRouting.Interaction

/-!
# What handlers do

A handler is called with an interaction, and if it does not panic on the call it gives the work
that is to be done for it: step by step it carries out operations, decides on what to do next by
what they come to, and in the end succeeds, fails or panics.  On its way it may leave notes of a
type `ν`, which mean nothing here.

Handlers are called and do their work in a guard, where panics are caught.
-/

namespace InteractionRouting

/-- What a panic carries: a text or something else. -/
inductive Panic where
  | text (message : String)
  | other
deriving DecidableEq

/-- The text of a panic in reports. -/
def Panic.message : Panic → String
  | text message => message
  | other => "handler panicked"

/-- An error that a handler returns.  It is asked for what it says when it is reported, and may
panic then. -/
structure HandlerError where
  told : Except Panic String

/-- An error that says something. -/
def HandlerError.saying (text : String) : HandlerError := ⟨.ok text⟩

/-- How a handler ends. -/
inductive Ending where
  | success
  | failure (error : HandlerError)
  | panic (cause : Panic)

/-- How a handler ended that was run in a guard. -/
inductive Verdict where
  | success
  | failure (error : String)
  | panic (message : String)
deriving DecidableEq

namespace Verdict

/-- The error or the panic message of a handler that did not succeed. -/
def fault? : Verdict → Option String
  | success => none
  | failure error => some error
  | panic message => some message

def panicked : Verdict → Bool
  | panic _ => true
  | success | failure _ => false

end Verdict

/-- What a guard makes of an ending: a panic is caught.  What an error says is asked for outside
of the guard, so if this panics the panic gets out. -/
def Ending.guarded : Ending → Except Panic Verdict
  | success => .ok .success
  | failure error => error.told.map .failure
  | panic cause => .ok (.panic cause.message)

/-- Something that happens while events are handled. -/
inductive Happening (ν : Type) where
  /-- The platform is called. -/
  | call (call : Call)
  /-- A handler leaves a note. -/
  | note (entry : ν)
  /-- A manifest is handed to the registrar. -/
  | registration (manifest : Manifest)

namespace Happening

variable {ν : Type}

def call? : Happening ν → Option Call
  | call c => some c
  | note _ | registration _ => none

def manifest? : Happening ν → Option Manifest
  | registration m => some m
  | call _ | note _ => none

/-- The platform calls among what happened, in order. -/
def calls (l : List (Happening ν)) : List Call := l.filterMap call?

/-- The manifests among what happened, in order. -/
def manifests (l : List (Happening ν)) : List Manifest := l.filterMap manifest?

end Happening

/-- What is done on a call: notes are left, and then something is given that is to be run, unless
the call panics. -/
structure Attempt (ν α : Type) where
  called : List ν
  given : Except Panic α

/-- A call that does nothing but to give something. -/
def Attempt.giving {ν α : Type} (a : α) : Attempt ν α := ⟨[], .ok a⟩

/-! ### Handlers of interactions -/

/-- The work of a handler, from its first step on. -/
inductive Work (ν : Type) where
  | finish (ending : Ending)
  | note (entry : ν) (next : Work ν)
  | perform (operation : Operation) (next : Reply → Progress → Work ν)

/-- What a handler does when it is called. -/
abbrev Conduct (ν : Type) := Attempt ν (Work ν)

/-- What came of running a handler. -/
structure Transcript (ν : Type) where
  /-- What happened, in order. -/
  happenings : List (Happening ν)
  interaction : Interaction
  ending : Ending

variable {ν : Type}

/-- Does the work of a handler for an interaction, after the platform calls made before. -/
def Work.run (p : Platform) : List Call → Interaction → Work ν → Transcript ν
  | _, i, finish ending => ⟨[], i, ending⟩
  | past, i, note entry next =>
    let t := run p past i next
    { t with happenings := .note entry :: t.happenings }
  | past, i, perform op next =>
    let done := i.perform p past op
    let made := done.call.toList
    let t := run p (past ++ made) done.interaction (next done.reply done.interaction.progress)
    { t with happenings := made.map .call ++ t.happenings }

/-- Calls a handler for an interaction, and has it do its work, after the platform calls made
before. -/
def Conduct.run (p : Platform) (past : List Call) (i : Interaction) (c : Conduct ν) :
    Transcript ν :=
  match c.given with
  | .error panic => ⟨c.called.map .note, i, .panic panic⟩
  | .ok work =>
    let t := work.run p past i
    { t with happenings := c.called.map .note ++ t.happenings }

/-! ### Subscribers and reporters -/

/-- What a subscriber to events does when it is run: it leaves notes and ends.  It has no
interaction to act on. -/
structure Errand (ν : Type) where
  notes : List ν
  ending : Ending

/-- Runs a subscriber from the call on. -/
def Errand.ofAttempt (a : Attempt ν (Errand ν)) : Errand ν :=
  match a.given with
  | .error panic => ⟨a.called, .panic panic⟩
  | .ok errand => ⟨a.called ++ errand.notes, errand.ending⟩

/-- What is done when a failure is reported: notes are left, and there may be a panic. -/
structure Reaction (ν : Type) where
  notes : List ν
  result : Except Panic Unit

end InteractionRouting
