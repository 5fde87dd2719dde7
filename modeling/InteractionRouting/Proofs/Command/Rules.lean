import InteractionRouting.Proofs.Command.Building
import Mathlib.Data.List.Induction

/-!
# The rules that a command is put together by

A command of a context menu is in no group and takes no parameters, and no two parameters of a
command of the chat have one name.  A draft goes on after a rule was broken, but what comes of it
is the error of the first step that broke one.  When no step broke one, the command is in the group
it was placed in last, and has the parameters that were declared.
-/

namespace InteractionRouting

/-- A signature is determined by its entries. -/
theorem Signature.eq_of_entries_eq {s t : Signature} (h : s.entries = t.entries) :
  s = t
  := by
  obtain ⟨_, _⟩ := s
  obtain rfl := h
  rfl

namespace Command.Draft

variable {η : Type} {kind : CommandKind} {name description : String} {steps : List Step}

/-- The group that a step places the command in, if it does. -/
def Step.group? : Step → Option Group
  | group g => some g
  | parameter _ _ => none

/-- A step breaks a rule when it comes after others. -/
inductive Breaks (kind : CommandKind) (command : String) (earlier : List Step) :
    Step → CommandError → Prop
  | groupInMenu (hkind : kind ≠ .chat) (g : Group) :
      Breaks kind command earlier (.group g) (.groupInMenu command)
  | parameterInMenu (hkind : kind ≠ .chat) (parameter : String) (p : Parameter) :
      Breaks kind command earlier (.parameter parameter p) (.parameterInMenu command)
  | duplicateParameter (hkind : kind = .chat) {parameter : String} {first : Parameter}
      (hfirst : .parameter parameter first ∈ earlier) (p : Parameter) :
      Breaks kind command earlier (.parameter parameter p) (.duplicateParameter command parameter)

/-- None of the steps breaks a rule. -/
def Obeys (kind : CommandKind) (command : String) (steps : List Step) : Prop :=
  ∀ earlier step later, steps = earlier ++ step :: later → ∀ e, ¬ Breaks kind command earlier step e

variable {earlier : List Step} {e : CommandError}

/-- To place a command in a group breaks a rule exactly if it is in a context menu. -/
theorem breaks_group_iff {g : Group} :
  Breaks kind name earlier (.group g) e ↔ kind ≠ .chat ∧ e = .groupInMenu name
  := by
  constructor
  · rintro ⟨⟩
    exact ⟨‹_›, rfl⟩
  · rintro ⟨hkind, rfl⟩
    apply Breaks.groupInMenu hkind

/-- To declare a parameter breaks a rule in a context menu, and in the chat if its name was declared
before. -/
theorem breaks_parameter_iff {parameter : String} {p : Parameter} :
  Breaks kind name earlier (.parameter parameter p) e
    ↔ kind ≠ .chat ∧ e = .parameterInMenu name
      ∨ kind = .chat ∧ (∃ first, .parameter parameter first ∈ earlier)
        ∧ e = .duplicateParameter name parameter
  := by
  constructor
  · rintro (⟨⟩ | ⟨hkind, -, -⟩ | ⟨hkind, hfirst, -⟩)
    · exact .inl ⟨hkind, rfl⟩
    · exact .inr ⟨hkind, ⟨_, hfirst⟩, rfl⟩
  · rintro (⟨hkind, rfl⟩ | ⟨hkind, ⟨first, hfirst⟩, rfl⟩)
    · apply Breaks.parameterInMenu hkind
    · apply Breaks.duplicateParameter hkind hfirst

/-- The first of some steps that obey the rules obey them, too. -/
theorem Obeys.of_append {later : List Step} (h : Obeys kind name (steps ++ later)) :
  Obeys kind name steps
  := by
  rintro earlier step between rfl
  apply h earlier step (between ++ later)
  rw [List.append_assoc, List.cons_append]

/-- Every step breaks a rule of a command of a context menu. -/
theorem Obeys.eq_nil (h : Obeys kind name steps) (hkind : kind ≠ .chat) :
  steps = []
  := by
  cases steps with
  | nil => rfl
  | cons step later =>
    exfalso
    cases step with
    | group g => apply h [] _ later rfl _ (.groupInMenu hkind g)
    | parameter parameter p => apply h [] _ later rfl _ (.parameterInMenu hkind parameter p)

/-- A parameter of some name was declared exactly if the name is among those of the declarations. -/
theorem mem_names_filterMap_declaration?_iff {parameter : String} :
  parameter ∈ (steps.filterMap Step.declaration?).map Prod.fst
    ↔ ∃ p, Step.parameter parameter p ∈ steps
  := by
  simp only [List.mem_map, List.mem_filterMap]
  constructor
  · rintro ⟨_, ⟨step, hstep, hdeclaration⟩, rfl⟩
    cases step with
    | group g => contradiction
    | parameter parameter p =>
      obtain rfl := Option.some.inj hdeclaration
      exact ⟨p, hstep⟩
  · rintro ⟨p, hp⟩
    exact ⟨(parameter, p), ⟨_, hp, rfl⟩, rfl⟩

/-! ### One step -/

/-- A step leaves alone what a command was started with.  One that places it in a group takes it out
of the group it was in. -/
theorem apply_keeps (d : Draft) (step : Step) :
  (d.apply step).kind = d.kind ∧ (d.apply step).name = d.name
    ∧ (d.apply step).description = d.description
    ∧ (d.apply step).group = step.group?.or d.group
  := by
  cases step with
  | group g =>
    rw [apply, inGroup]
    split_ifs
    · exact ⟨rfl, rfl, rfl, rfl⟩
    · exact ⟨rfl, rfl, rfl, rfl⟩
  | parameter parameter p =>
    rw [apply, Draft.parameter]
    split_ifs
    · split
      · exact ⟨rfl, rfl, rfl, rfl⟩
      · exact ⟨rfl, rfl, rfl, rfl⟩
    · exact ⟨rfl, rfl, rfl, rfl⟩

/-- A rule that was broken first is remembered. -/
theorem error_apply_of_error_eq_some {d : Draft} (h : d.error = some e) (step : Step) :
  (d.apply step).error = some e
  := by
  have hfail (e' : CommandError) : (d.fail e').error = some e := by
    rw [fail, h, Option.some_or]
  cases step with
  | group g =>
    rw [apply, inGroup]
    split_ifs
    · apply h
    · apply hfail
  | parameter parameter p =>
    rw [apply, Draft.parameter]
    split_ifs
    · split
      · apply h
      · apply hfail
    · apply hfail

/-- While no rule was broken the next step brings an error exactly if it breaks one. -/
theorem error_apply_eq_some_iff {d : Draft} (h : d.error = none)
    (hnames : ∀ parameter, parameter ∈ d.signature.names
      ↔ ∃ p, Step.parameter parameter p ∈ earlier) (step : Step) :
  (d.apply step).error = some e ↔ Breaks d.kind d.name earlier step e
  := by
  cases step with
  | group g =>
    rw [breaks_group_iff, apply, inGroup]
    split_ifs with hkind
    · simp [h, hkind]
    · simp [fail, h, hkind, eq_comm]
  | parameter parameter p =>
    rw [breaks_parameter_iff, ← hnames, apply, Draft.parameter, Signature.add?]
    split_ifs with hkind hname
    · simp [fail, h, hkind, hname, eq_comm]
    · simp [h, hkind, hname]
    · simp [fail, h, hkind, eq_comm]

/-! ### All steps -/

theorem applyAll_concat (d : Draft) (steps : List Step) (step : Step) :
  d.applyAll (steps ++ [step]) = (d.applyAll steps).apply step
  := List.foldl_append

/-- Steps can be taken up to one of them, and then from there on. -/
theorem applyAll_split (d : Draft) (earlier later : List Step) (step : Step) :
  d.applyAll (earlier ++ step :: later) = (d.applyAll (earlier ++ [step])).applyAll later
  := by
  rw [applyAll_concat, applyAll, List.foldl_append, List.foldl_cons]
  rfl

/-- A command keeps what it was started with, and is in the group it was placed in last. -/
theorem applyAll_start (kind : CommandKind) (name description : String) (steps : List Step) :
  let d := (start kind name description).applyAll steps
  d.kind = kind ∧ d.name = name ∧ d.description = description
    ∧ d.group = (steps.filterMap Step.group?).getLast?
  := by
  induction steps using List.reverseRecOn with
  | nil => exact ⟨rfl, rfl, rfl, rfl⟩
  | append_singleton steps step ih =>
    obtain ⟨hkind, hname, hdescription, hgroup⟩ := ih
    obtain ⟨hkind', hname', hdescription', hgroup'⟩ :=
      apply_keeps ((start kind name description).applyAll steps) step
    rw [applyAll_concat]
    refine ⟨hkind'.trans hkind, hname'.trans hname, hdescription'.trans hdescription, ?_⟩
    rw [hgroup', hgroup, List.filterMap_append, List.getLast?_append]
    cases step with
    | group g => rfl
    | parameter parameter p => rfl

/-- The first error stays, whatever comes after it. -/
theorem error_applyAll_of_error_eq_some {d : Draft} (h : d.error = some e) (steps : List Step) :
  (d.applyAll steps).error = some e
  := by
  induction steps generalizing d with
  | nil => apply h
  | cons step steps ih => apply ih (error_apply_of_error_eq_some h step)

/-- After steps that broke no rule, the next step brings an error exactly if it breaks one. -/
theorem error_concat_eq_some_iff {step : Step}
    (h : ((start kind name description).applyAll earlier).error = none) :
  ((start kind name description).applyAll (earlier ++ [step])).error = some e
    ↔ Breaks kind name earlier step e
  := by
  obtain ⟨hkind, hname, -, -⟩ := applyAll_start kind name description earlier
  obtain ⟨-, hentries⟩ := applyAll_of_error_eq_none h
  have hnames (parameter : String) :
      parameter ∈ ((start kind name description).applyAll earlier).signature.names
        ↔ ∃ p, Step.parameter parameter p ∈ earlier := by
    rw [Signature.names, hentries, ← mem_names_filterMap_declaration?_iff]
    rfl
  rw [applyAll_concat, error_apply_eq_some_iff h hnames, hkind, hname]

/-- No error is remembered exactly if no step broke a rule. -/
theorem error_eq_none_iff :
  ((start kind name description).applyAll steps).error = none ↔ Obeys kind name steps
  := by
  constructor
  · rintro h earlier step later rfl e hbreaks
    rw [applyAll_split] at h
    have hstep := (applyAll_of_error_eq_none h).1
    rw [applyAll_concat] at hstep
    have hearlier := (apply_of_error_eq_none hstep).1
    rw [← applyAll_concat, (error_concat_eq_some_iff hearlier).mpr hbreaks] at hstep
    contradiction
  · intro hobeys
    induction steps using List.reverseRecOn with
    | nil => rfl
    | append_singleton steps step ih =>
      have hearlier := ih hobeys.of_append
      rw [Option.eq_none_iff_forall_ne_some]
      intro e he
      apply hobeys steps step [] rfl e
      apply (error_concat_eq_some_iff hearlier).mp he

/-- The error that is remembered is that of the first step that broke a rule. -/
theorem error_eq_some_iff :
  ((start kind name description).applyAll steps).error = some e
    ↔ ∃ earlier step later, steps = earlier ++ step :: later
      ∧ Obeys kind name earlier ∧ Breaks kind name earlier step e
  := by
  constructor
  · intro he
    induction steps using List.reverseRecOn with
    | nil => contradiction
    | append_singleton steps step ih =>
      cases herror : ((start kind name description).applyAll steps).error with
      | none =>
        exact ⟨steps, step, [], rfl, error_eq_none_iff.mp herror,
          (error_concat_eq_some_iff herror).mp he⟩
      | some first =>
        rw [applyAll_concat, error_apply_of_error_eq_some herror] at he
        obtain ⟨earlier, first, later, rfl, hearlier, hbreaks⟩ := ih (herror.trans he)
        refine ⟨earlier, first, later ++ [step], ?_, hearlier, hbreaks⟩
        rw [List.append_assoc, List.cons_append]
  · rintro ⟨earlier, step, later, rfl, hearlier, hbreaks⟩
    rw [applyAll_split]
    apply error_applyAll_of_error_eq_some
    apply (error_concat_eq_some_iff (error_eq_none_iff.mpr hearlier)).mpr hbreaks

/-- Steps that do not obey the rules have one that breaks a rule after those before it. -/
theorem not_obeys_iff :
  ¬ Obeys kind name steps
    ↔ ∃ earlier step later e, steps = earlier ++ step :: later ∧ Breaks kind name earlier step e
  := by
  simp only [Obeys, not_forall, not_not, exists_prop, exists_and_left]

/-! ### The command -/

/-- A command is not built for the rule that its draft remembers as broken. -/
theorem build_eq_error_iff {d : Draft} {handler : η} :
  d.build handler = .error e ↔ d.error = some e
  := by
  rw [build]
  cases d.error with
  | none => simp
  | some first => simp

/-- What a command is that is built when no step broke a rule. -/
theorem build_start_eq_ok_iff {handler : η} {c : Command η} :
  ((start kind name description).applyAll steps).build handler = .ok c
    ↔ Obeys kind name steps
      ∧ c.name = name ∧ c.description = description ∧ c.kind = kind
      ∧ c.group = (steps.filterMap Step.group?).getLast?
      ∧ c.signature.entries = steps.filterMap Step.declaration? ∧ c.handler = handler
  := by
  obtain ⟨hkind, hname, hdescription, hgroup⟩ := applyAll_start kind name description steps
  rw [build_eq_ok_iff, error_eq_none_iff]
  apply and_congr_right
  intro hobeys
  have hentries : ((start kind name description).applyAll steps).signature.entries
      = steps.filterMap Step.declaration? :=
    (applyAll_of_error_eq_none (error_eq_none_iff.mpr hobeys)).2
  constructor
  · rintro rfl
    exact ⟨hname, hdescription, hkind, hgroup, hentries, rfl⟩
  · rintro ⟨rfl, rfl, rfl, hgroup', hentries', rfl⟩
    rw [hname, hdescription, hkind, hgroup, ← hgroup',
      Signature.eq_of_entries_eq (hentries.trans hentries'.symm)]

/-- However a command is put together, and of whichever kind it is: it is refused exactly if some
step breaks a rule, and then for the first step that breaks one, whatever comes after that.
Otherwise it has the name, the description and the kind that it was started with, is in the group
that it was placed in last, and has the parameters that were declared, in the order of their
declaration and under distinct names.  So a command of a context menu is in no group, takes no
parameters and is known by its name alone. -/
theorem build_exact (kind : CommandKind) (name description : String) (steps : List Step)
    (handler : η) :
  let built := ((start kind name description).applyAll steps).build handler
  ((∃ e, built = .error e) ↔ ∃ earlier step later e, steps = earlier ++ step :: later
      ∧ Breaks kind name earlier step e)
    ∧ (∀ e, built = .error e ↔ ∃ earlier step later, steps = earlier ++ step :: later
      ∧ Obeys kind name earlier ∧ Breaks kind name earlier step e)
    ∧ (∀ c, built = .ok c ↔ Obeys kind name steps
      ∧ c.name = name ∧ c.description = description ∧ c.kind = kind
      ∧ c.group = (steps.filterMap Step.group?).getLast?
      ∧ c.signature.entries = steps.filterMap Step.declaration? ∧ c.handler = handler)
    ∧ ∀ c, built = .ok c → ((steps.filterMap Step.declaration?).map Prod.fst).Nodup
      ∧ (kind ≠ .chat → c.group = none ∧ c.signature.entries = [] ∧ c.key = ⟨name, none, none⟩)
  := by
  intro built
  refine ⟨?_, ?_, fun c => build_start_eq_ok_iff, ?_⟩
  · have hobeys : ((start kind name description).applyAll steps).error = none
        ↔ Obeys kind name steps := error_eq_none_iff
    rw [← not_obeys_iff, ← hobeys, ← ne_eq, Option.ne_none_iff_exists']
    simp only [built, build_eq_error_iff]
  · intro e
    rw [build_eq_error_iff, error_eq_some_iff]
  · intro c hc
    obtain ⟨hobeys, rfl, -, -, hgroup, hentries, -⟩ := build_start_eq_ok_iff.mp hc
    rw [← hentries]
    use c.signature.nodup
    intro hmenu
    obtain rfl := hobeys.eq_nil hmenu
    refine ⟨hgroup, hentries, ?_⟩
    rw [key, hgroup]
    rfl

/-- Of two steps that break a rule the first one counts. -/
example (g : Group) (p : Parameter) :
  ((user "info").applyAll [.parameter "x" p, .group g]).build ()
    = .error (.parameterInMenu "info")
  := rfl

end Command.Draft

end InteractionRouting
