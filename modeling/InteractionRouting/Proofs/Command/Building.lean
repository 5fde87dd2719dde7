import InteractionRouting.Command
import Mathlib.Tactic.Common

/-!
# How a command is put together

A draft is placed in groups and declares parameters, step by step, and remembers the first rule
that was broken.  So when it is built no rule was broken, and its parameters are those that were
declared, in the order of their declaration.
-/

namespace InteractionRouting.Command

variable {η : Type}

namespace Draft

/-- What is said about a command while it is put together. -/
inductive Step where
  | group (group : Group)
  | parameter (name : String) (parameter : Parameter)

/-- The parameter that a step declares, if it declares one. -/
def Step.declaration? : Step → Option (String × Parameter)
  | group _ => none
  | parameter name p => some (name, p)

/-- The draft after a step. -/
def apply (d : Draft) : Step → Draft
  | .group g => d.inGroup g
  | .parameter name p => d.parameter name p

/-- The draft after steps, one after the other. -/
def applyAll (d : Draft) (steps : List Step) : Draft := steps.foldl apply d

/-- A rule that was broken is remembered. -/
theorem error_fail_ne_none (d : Draft) (e : CommandError) :
  (d.fail e).error ≠ none
  := by
  rw [fail]
  cases d.error <;> simp

/-- A step that breaks no rule comes after none that did, and adds what it declares. -/
theorem apply_of_error_eq_none {d : Draft} {step : Step} (h : (d.apply step).error = none) :
  d.error = none
    ∧ (d.apply step).signature.entries = d.signature.entries ++ step.declaration?.toList
  := by
  cases step with
  | group g =>
    rw [apply, inGroup] at h ⊢
    by_cases hkind : d.kind = .chat
    · rw [if_pos hkind] at h ⊢
      exact ⟨h, (List.append_nil _).symm⟩
    · rw [if_neg hkind] at h
      apply absurd h (error_fail_ne_none d _)
  | parameter name p =>
    rw [apply, parameter] at h ⊢
    by_cases hkind : d.kind = .chat
    · rw [if_pos hkind, Signature.add?] at h ⊢
      by_cases hname : name ∈ d.signature.names
      · rw [dif_pos hname] at h
        apply absurd h (error_fail_ne_none d _)
      · rw [dif_neg hname] at h ⊢
        exact ⟨h, rfl⟩
    · rw [if_neg hkind] at h
      apply absurd h (error_fail_ne_none d _)

/-- Steps that break no rule, on a draft that had broken none, add just their declarations. -/
theorem applyAll_of_error_eq_none {d : Draft} {steps : List Step}
    (h : (d.applyAll steps).error = none) :
  d.error = none
    ∧ (d.applyAll steps).signature.entries
      = d.signature.entries ++ steps.filterMap Step.declaration?
  := by
  induction steps generalizing d with
  | nil => exact ⟨h, (List.append_nil _).symm⟩
  | cons step steps ih =>
    obtain ⟨hstep, hentries⟩ := ih h
    obtain ⟨hd, hentry⟩ := apply_of_error_eq_none hstep
    use hd
    rw [applyAll, List.foldl_cons, ← applyAll, hentries, hentry, List.append_assoc]
    cases hdeclaration : step.declaration? with
    | none => rw [List.filterMap_cons_none hdeclaration, Option.toList_none, List.nil_append]
    | some x => rw [List.filterMap_cons_some hdeclaration, Option.toList_some,
        List.singleton_append]

/-- A draft that is built broke no rule, and the command is what the draft says. -/
theorem build_eq_ok_iff {d : Draft} {handler : η} {c : Command η} :
  d.build handler = .ok c
    ↔ d.error = none ∧ ⟨d.name, d.description, d.kind, d.group, d.signature, handler⟩ = c
  := by
  rw [build]
  cases d.error with
  | none => simp
  | some e => simp

/-- A command has the parameters that were declared, in the order of their declaration. -/
theorem entries_of_build {kind : CommandKind} {name description : String} {steps : List Step}
    {handler : η} {c : Command η}
    (h : ((start kind name description).applyAll steps).build handler = .ok c) :
  c.signature.entries = steps.filterMap Step.declaration? ∧ c.handler = handler
  := by
  obtain ⟨herror, rfl⟩ := build_eq_ok_iff.mp h
  obtain ⟨-, hentries⟩ := applyAll_of_error_eq_none herror
  exact ⟨hentries, rfl⟩

end Draft

end InteractionRouting.Command
