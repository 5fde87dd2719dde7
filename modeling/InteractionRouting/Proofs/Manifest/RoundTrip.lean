import InteractionRouting.Proofs.Catalogue.Matching
import InteractionRouting.Proofs.Command.Building
import InteractionRouting.Proofs.Envelope.RoundTrip

/-!
# Manifests are read again

Commands and groups are read back from what they are written as.  The one condition is on the
bounds of parameters, for there is no number in JSON for a bound that is not finite.  The list of
parameters keeps its order, so a registered command has its parameters in the order in which it
declares them.
-/

namespace InteractionRouting

open Wire Record
open Codec (ReadsBack)

namespace Parameter

theorem Choice.restores (c : Choice) :
  fields.Restores c c
  := Restores.required (.text _) |>.map Choice.mk
    |>.seq (.required (.any _))

/-- A choice is read from what it is written as. -/
theorem Choice.readsBack (c : Choice) :
  codec.ReadsBack c
  := c.restores.readsBack (by decide)

/-- The bounds of a parameter, where it has any, are finite. -/
structure HasFiniteBounds (p : Parameter) : Prop where
  minValue : ∀ x ∈ p.minValue, x.isFinite = true
  maxValue : ∀ x ∈ p.maxValue, x.isFinite = true

/-- Every part of a parameter with finite bounds is read from its own field. -/
theorem restores {p : Parameter} (h : p.HasFiniteBounds) :
  fields.Restores p p
  := Restores.required p.kind.readsBack |>.map Parameter.mk
    |>.seq (.required (.text _))
    |>.seq (.defaulted (.flag _))
    |>.seq (.elided (.option_float64 h.minValue))
    |>.seq (.elided (.option_float64 h.maxValue))
    |>.seq (.elided (.option_uint16 _))
    |>.seq (.elided (.option_uint16 _))
    |>.seq (.elidedList (.list fun c _ => c.readsBack))
    |>.seq (.elidedList (.list fun t _ => t.readsBack))
    |>.seq .elidedFlag

namespace Named

/-- The fields of a parameter stand beside its name, which none of them has. -/
theorem readsBack {n : Named} (h : n.parameter.HasFiniteBounds) :
  codec.ReadsBack n
  := by
  have hnames : ∀ name ∈ Parameter.fields.names, name ∉ own.names := by decide
  apply Restores.readsBack_with (a := n.name) (b := n.parameter)
  · exact .required (.text n.name)
  · decide
  · intro f hf
    apply hnames f.1 ((restores h).written f hf)
  · exact (restores h).decodeFields_write (by decide) .buffered
  · rfl

end Named

end Parameter

namespace Manifest

namespace Command

/-- Every part of a command that is registered is read from its own field. -/
theorem restores {f : Command} (h : ∀ n ∈ f.parameters, n.parameter.HasFiniteBounds) :
  fields.Restores f f
  := Restores.required (.text _) |>.map Command.mk
    |>.seq (.required (.text _))
    |>.seq (.required f.kind.readsBack)
    |>.seq (.elided (.option_text _))
    |>.seq (.elided (.option_text _))
    |>.seq (.elidedList (.list fun n hn => n.readsBack (h n hn)))

/-- A command that is registered is read from what it is written as, if the bounds of its parameters
are finite. -/
theorem readsBack {f : Command} (h : ∀ n ∈ f.parameters, n.parameter.HasFiniteBounds) :
  codec.ReadsBack f
  := (restores h).readsBack (by decide)

end Command

theorem SubGroup.restores (s : SubGroup) :
  fields.Restores s s
  := Restores.required (.text _) |>.map SubGroup.mk
    |>.seq (.required (.text _))

/-- A group inside another is read from what it is written as. -/
theorem SubGroup.readsBack (s : SubGroup) :
  codec.ReadsBack s
  := s.restores.readsBack (by decide)

theorem Group.restores (g : Group) :
  fields.Restores g g
  := Restores.required (.text _) |>.map Group.mk
    |>.seq (.required (.text _))
    |>.seq (.defaulted (.list fun s _ => s.readsBack))

/-- A group that is registered is read from what it is written as. -/
theorem Group.readsBack (g : Group) :
  codec.ReadsBack g
  := g.restores.readsBack (by decide)

end Manifest

namespace Catalogue

variable {η : Type}

/-- What is registered of a command has its parameters, in their order. -/
theorem entries_listing (d : Command η) :
  d.listing.parameters.map (fun n => (n.name, n.parameter)) = d.signature.entries
  := by
  rw [Command.listing, Signature.named, List.map_map]
  apply List.map_id

/-- A command is read back as it is registered if the bounds of its parameters are finite. -/
theorem listing_readsBack {d : Command η} (h : ∀ e ∈ d.signature.entries, e.2.HasFiniteBounds) :
  Manifest.Command.codec.ReadsBack d.listing
  := by
  apply Manifest.Command.readsBack
  intro n hn
  obtain ⟨e, he, rfl⟩ := List.mem_map.mp hn
  apply h e he

/-- After any commands were added whose parameters have finite bounds, each command and each group
of the manifest is read back from what it is written as.  The commands of the manifest have the
parameters of the commands that were added, in their order; and if a command was put together step
by step, that is the order in which the steps declare them. -/
theorem compile_reads_back (added : List (Command η))
    (h : ∀ d ∈ ((empty : Catalogue η).addAll added).commands,
      ∀ e ∈ d.signature.entries, e.2.HasFiniteBounds) :
  let c := (empty : Catalogue η).addAll added
  (∀ f ∈ c.compile.commands, Manifest.Command.codec.ReadsBack f)
    ∧ (∀ g ∈ c.compile.groups, Manifest.Group.codec.ReadsBack g)
    ∧ c.compile.commands.map (fun f => f.parameters.map fun n => (n.name, n.parameter))
        = c.commands.map (·.signature.entries)
    ∧ ∀ d ∈ c.commands, ∀ (kind : CommandKind) (name description : String)
        (steps : List Command.Draft.Step),
        ((Command.Draft.start kind name description).applyAll steps).build d.handler = .ok d →
          d.signature.entries = steps.filterMap Command.Draft.Step.declaration?
  := by
  intro c
  refine ⟨?commands, fun g _ => g.readsBack, ?order, ?declared⟩
  case commands =>
    intro f hf
    obtain ⟨d, hd, rfl⟩ := List.mem_map.mp hf
    apply listing_readsBack (h d hd)
  case order =>
    rw [compile, manifestOf, List.map_map]
    apply List.map_congr_left
    intro d _
    apply entries_listing
  case declared =>
    intro d _ kind name description steps hbuild
    apply (Command.Draft.entries_of_build hbuild).1

/-- A command in a group inside another, whose first parameter has bounds, the second a choice and
a channel type, and the third nothing but a length; and a command of a menu that has none. -/
theorem compile_reads_back_nested :
  let amount := { Parameter.ofKind .integer "How many" with minValue := some 1, maxValue := some 10 }
  let place := ((Parameter.ofKind .channel "Where").addChoice "Here" .null).addChannelTypes [.text]
  let reason := { Parameter.ofKind .string "Why" with maxLength := some 80, autocomplete := true }
  let steps : List Command.Draft.Step := [.group (.nested "mod" "Moderation" "hard" "No mercy"),
    .parameter "amount" amount, .parameter "place" place, .parameter "reason" reason]
  let kick : Command Unit := ⟨"kick", "Kick someone", .chat,
    some (.nested "mod" "Moderation" "hard" "No mercy"),
    ⟨[("amount", amount), ("place", place), ("reason", reason)], by simp⟩, ()⟩
  let view : Command Unit := ⟨"view", "", .user, none, .empty, ()⟩
  ((Command.Draft.chat "kick" "Kick someone").applyAll steps).build () = .ok kick
    ∧ (Command.Draft.user "view").build () = .ok view
    ∧ Manifest.Command.codec.ReadsBack kick.listing
    ∧ Manifest.Command.codec.ReadsBack view.listing
    ∧ Manifest.Group.codec.ReadsBack ⟨"mod", "Moderation", [⟨"hard", "No mercy"⟩]⟩
    ∧ kick.signature.entries = steps.filterMap Command.Draft.Step.declaration?
  := by
  intro amount place reason steps kick view
  let c := (empty : Catalogue Unit).addAll [kick, view]
  have hcommands : c.commands = [kick, view] := rfl
  have hkick : kick ∈ c.commands := List.mem_cons_self
  have hview : view ∈ c.commands := List.mem_cons_of_mem kick List.mem_cons_self
  have hbounds : ∀ d ∈ c.commands, ∀ e ∈ d.signature.entries, e.2.HasFiniteBounds := by
    rw [hcommands, List.forall_mem_cons, List.forall_mem_singleton]
    constructor
    · rw [List.forall_mem_cons, List.forall_mem_cons, List.forall_mem_singleton]
      refine ⟨⟨?_, ?_⟩, ⟨nofun, nofun⟩, ⟨nofun, nofun⟩⟩
      · rintro x ⟨⟩
        decide
      · rintro x ⟨⟩
        decide
    · apply List.forall_mem_nil
  obtain ⟨hread, hgroup, -, hdeclared⟩ := compile_reads_back [kick, view] hbounds
  exact ⟨rfl, rfl, hread _ (List.mem_map_of_mem hkick), hread _ (List.mem_map_of_mem hview),
    hgroup _ (List.mem_singleton_self _),
    hdeclared kick hkick .chat "kick" "Kick someone" steps rfl⟩

end Catalogue

end InteractionRouting
