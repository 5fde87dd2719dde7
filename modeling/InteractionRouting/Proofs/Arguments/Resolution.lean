import InteractionRouting.Argument
import Mathlib.Tactic.Common

/-!
# What arguments resolve to

The parameters of a command are resolved one after the other in the order of their declaration.
A parameter is bound to what the first value of its name resolves to, or is left out, or fails,
and the first one that fails is the error.  So the arguments depend on nothing but the directory
and, for each name that is declared, the first value of that name.
-/

namespace InteractionRouting.Arguments

/-! ### One parameter -/

/-- A parameter is bound to a value: the first value given for it is of its kind and resolves to
this one. -/
def Binds (e : CommandEnvelope) (name : String) (p : Parameter) (v : Argument) : Prop :=
  ∃ first, e.supplied? name = some first ∧ first.kind = p.kind
    ∧ first.resolve e.directory = .ok v

/-- No value is given for a parameter, and none has to be. -/
def LeavesOut (e : CommandEnvelope) (name : String) (p : Parameter) : Prop :=
  e.supplied? name = none ∧ p.required = false

/-- A parameter is bound, or it is left out. -/
def Settles (e : CommandEnvelope) (name : String) (p : Parameter) : Prop :=
  (∃ v, Binds e name p v) ∨ LeavesOut e name p

/-- Why a parameter does not resolve. -/
inductive Fails (e : CommandEnvelope) (name : String) (p : Parameter) : ResolutionError → Prop
  /-- The first value given for it is of another kind. -/
  | kind {first : Supplied} (hfirst : e.supplied? name = some first) (hkind : first.kind ≠ p.kind) :
      Fails e name p (.invalid name p.kind.label)
  /-- The first value given for it does not resolve. -/
  | value {first : Supplied} {error : ResolutionError} (hfirst : e.supplied? name = some first)
      (hkind : first.kind = p.kind) (hresolve : first.resolve e.directory = .error error) :
      Fails e name p error
  /-- No value is given for it, and one has to be. -/
  | missing (hnone : e.supplied? name = none) (hrequired : p.required = true) :
      Fails e name p (.missing name)

section

variable {e : CommandEnvelope} {name : String} {p : Parameter}

/-- A value of the kind that is declared is resolved. -/
theorem resolveOne_of_supplied {first : Supplied} (hfirst : e.supplied? name = some first)
    (hkind : first.kind = p.kind) :
  resolveOne e name p = (first.resolve e.directory).map some
  := by
  rw [resolveOne, hfirst]
  dsimp only
  rw [if_pos hkind]

/-- A value of another kind than is declared is invalid. -/
theorem resolveOne_of_kind_ne {first : Supplied} (hfirst : e.supplied? name = some first)
    (hkind : first.kind ≠ p.kind) :
  resolveOne e name p = .error (.invalid name p.kind.label)
  := by
  rw [resolveOne, hfirst]
  dsimp only
  rw [if_neg hkind]

/-- A parameter without a value is left out, unless it is required. -/
theorem resolveOne_of_not_supplied (hnone : e.supplied? name = none) :
  resolveOne e name p = if p.required then .error (.missing name) else .ok none
  := by
  rw [resolveOne, hnone]

/-- A parameter that binds an argument adds it. -/
theorem Binds.resolveOne_eq {v : Argument} (h : Binds e name p v) :
  resolveOne e name p = .ok (some v)
  := by
  obtain ⟨first, hfirst, hkind, hresolve⟩ := h
  rw [resolveOne_of_supplied hfirst hkind, hresolve]
  rfl

/-- A parameter that is left out adds nothing. -/
theorem LeavesOut.resolveOne_eq (h : LeavesOut e name p) :
  resolveOne e name p = .ok none
  := by
  obtain ⟨hnone, hrequired⟩ := h
  rw [resolveOne_of_not_supplied hnone, hrequired]
  rfl

theorem Fails.resolveOne_eq {error : ResolutionError} (h : Fails e name p error) :
  resolveOne e name p = .error error
  := by
  cases h with
  | kind hfirst hkind => apply resolveOne_of_kind_ne hfirst hkind
  | value hfirst hkind hresolve =>
    rw [resolveOne_of_supplied hfirst hkind, hresolve]
    rfl
  | missing hnone hrequired => rw [resolveOne_of_not_supplied hnone, if_pos hrequired]

/-- A parameter is bound, is left out, or fails. -/
theorem binds_or_leavesOut_or_fails (e : CommandEnvelope) (name : String) (p : Parameter) :
  (∃ v, Binds e name p v) ∨ LeavesOut e name p ∨ ∃ error, Fails e name p error
  := by
  cases hfirst : e.supplied? name with
  | none =>
    cases hrequired : p.required with
    | false => exact .inr (.inl ⟨hfirst, hrequired⟩)
    | true => exact .inr (.inr ⟨_, .missing hfirst hrequired⟩)
  | some first =>
    by_cases hkind : first.kind = p.kind
    · cases hresolve : first.resolve e.directory with
      | ok v => exact .inl ⟨v, first, hfirst, hkind, hresolve⟩
      | error error => exact .inr (.inr ⟨error, .value hfirst hkind hresolve⟩)
    · exact .inr (.inr ⟨_, .kind hfirst hkind⟩)

end

/-! ### All parameters -/

variable {e : CommandEnvelope} {l : List (String × Parameter)}

/-- After a parameter that binds an argument the others are resolved, next to that argument. -/
theorem resolveFrom_of_binds {name : String} {p : Parameter} {v : Argument} (h : Binds e name p v)
    (rest : List (String × Parameter)) (a : Arguments) :
  resolveFrom e ((name, p) :: rest) a = resolveFrom e rest ⟨a.table.insert name v⟩
  := by
  rw [resolveFrom, h.resolveOne_eq]

/-- After a parameter that is left out the others are resolved as if it were not declared. -/
theorem resolveFrom_of_leavesOut {name : String} {p : Parameter} (h : LeavesOut e name p)
    (rest : List (String × Parameter)) (a : Arguments) :
  resolveFrom e ((name, p) :: rest) a = resolveFrom e rest a
  := by
  rw [resolveFrom, h.resolveOne_eq]

/-- A parameter that fails ends the resolution with its error. -/
theorem resolveFrom_of_fails {name : String} {p : Parameter} {error : ResolutionError}
    (h : Fails e name p error) (rest : List (String × Parameter)) (a : Arguments) :
  resolveFrom e ((name, p) :: rest) a = .error error
  := by
  rw [resolveFrom, h.resolveOne_eq]

/-- What a parameter adds to the arguments. -/
def binding? (e : CommandEnvelope) (d : String × Parameter) : Option (String × Argument) :=
  match resolveOne e d.1 d.2 with
  | .ok (some v) => some (d.1, v)
  | .ok none | .error _ => none

theorem binding?_of_binds {d : String × Parameter} {v : Argument} (h : Binds e d.1 d.2 v) :
  binding? e d = some (d.1, v)
  := by
  rw [binding?, h.resolveOne_eq]

theorem binding?_of_leavesOut {d : String × Parameter} (h : LeavesOut e d.1 d.2) :
  binding? e d = none
  := by
  rw [binding?, h.resolveOne_eq]

theorem binding?_of_fails {d : String × Parameter} {error : ResolutionError}
    (h : Fails e d.1 d.2 error) :
  binding? e d = none
  := by
  rw [binding?, h.resolveOne_eq]

/-- The binding of a parameter is the argument that it binds, under its own name. -/
theorem binding?_eq_some_iff {d : String × Parameter} {name : String} {v : Argument} :
  binding? e d = some (name, v) ↔ d.1 = name ∧ Binds e d.1 d.2 v
  := by
  constructor
  · intro h
    obtain ⟨w, hbinds⟩ | hleavesOut | ⟨error, hfails⟩ := binds_or_leavesOut_or_fails e d.1 d.2
    · rw [binding?_of_binds hbinds, Option.some.injEq, Prod.mk.injEq] at h
      obtain ⟨hname, rfl⟩ := h
      exact ⟨hname, hbinds⟩
    · rw [binding?_of_leavesOut hleavesOut] at h
      contradiction
    · rw [binding?_of_fails hfails] at h
      contradiction
  · rintro ⟨rfl, hbinds⟩
    apply binding?_of_binds hbinds

/-- The entries of parameters that are in order are those of the names that a value is given
for. -/
theorem keys_filterMap_binding? (h : ∀ d ∈ l, Settles e d.1 d.2) :
  (l.filterMap (binding? e)).map Prod.fst
    = (l.map Prod.fst).filter fun name => (e.supplied? name).isSome
  := by
  induction l with
  | nil => rfl
  | cons d rest ih =>
    obtain ⟨hd, hrest⟩ := List.forall_mem_cons.mp h
    obtain ⟨v, hbinds⟩ | hleavesOut := hd
    · obtain ⟨first, hfirst, -⟩ := id hbinds
      rw [List.filterMap_cons_some (binding?_of_binds hbinds), List.map_cons, List.map_cons,
        List.filter_cons_of_pos (by rw [hfirst]; rfl), ih hrest]
    · rw [List.filterMap_cons_none (binding?_of_leavesOut hleavesOut), List.map_cons,
        List.filter_cons_of_neg (by rw [hleavesOut.1]; trivial), ih hrest]

/-- Parameters that are all in order resolve. -/
theorem resolveFrom_of_settles (h : ∀ d ∈ l, Settles e d.1 d.2) (a : Arguments) :
  resolveFrom e l a
    = .ok ⟨(l.filterMap (binding? e)).foldl (fun t x => t.insert x.1 x.2) a.table⟩
  := by
  induction l generalizing a with
  | nil => rfl
  | cons d rest ih =>
    obtain ⟨hd, hrest⟩ := List.forall_mem_cons.mp h
    obtain ⟨v, hbinds⟩ | hleavesOut := hd
    · rw [resolveFrom_of_binds hbinds, ih hrest,
        List.filterMap_cons_some (binding?_of_binds hbinds), List.foldl_cons]
    · rw [resolveFrom_of_leavesOut hleavesOut, ih hrest,
        List.filterMap_cons_none (binding?_of_leavesOut hleavesOut)]

/-- The first parameter that fails is the error. -/
theorem resolveFrom_of_first_fails {before after : List (String × Parameter)}
    {d : String × Parameter} {error : ResolutionError}
    (hbefore : ∀ x ∈ before, Settles e x.1 x.2) (hd : Fails e d.1 d.2 error) (a : Arguments) :
  resolveFrom e (before ++ d :: after) a = .error error
  := by
  induction before generalizing a with
  | nil => apply resolveFrom_of_fails hd
  | cons x before ih =>
    obtain ⟨hx, hrest⟩ := List.forall_mem_cons.mp hbefore
    rw [List.cons_append]
    obtain ⟨v, hbinds⟩ | hleavesOut := hx
    · rw [resolveFrom_of_binds hbinds, ih hrest]
    · rw [resolveFrom_of_leavesOut hleavesOut, ih hrest]

/-- All parameters are in order, or there is a first that fails. -/
theorem settles_or_first_fails (e : CommandEnvelope) (l : List (String × Parameter)) :
  (∀ d ∈ l, Settles e d.1 d.2)
    ∨ ∃ before d after error, l = before ++ d :: after
        ∧ (∀ x ∈ before, Settles e x.1 x.2) ∧ Fails e d.1 d.2 error
  := by
  induction l with
  | nil => simp
  | cons d rest ih =>
    have hd : Settles e d.1 d.2 ∨ ∃ error, Fails e d.1 d.2 error := by
      rw [Settles, or_assoc]
      apply binds_or_leavesOut_or_fails
    obtain hd | ⟨error, hfails⟩ := hd
    · obtain hrest | ⟨before, x, after, error, rfl, hbefore, hfails⟩ := ih
      · left
        rw [List.forall_mem_cons]
        exact ⟨hd, hrest⟩
      · right
        exact ⟨d :: before, x, after, error, rfl, List.forall_mem_cons.mpr ⟨hd, hbefore⟩, hfails⟩
    · right
      exact ⟨[], d, rest, error, rfl, by simp, hfails⟩

/-! ### The arguments of a command -/

variable {s : Signature} {a : Arguments}

/-- Where each parameter binds an argument or is left out, the arguments are those that are bound,
in the order of the declarations. -/
theorem resolve_of_settles (h : ∀ d ∈ s.entries, Settles e d.1 d.2) :
  resolve s e = .ok ⟨.ofList (s.entries.filterMap (binding? e))⟩
  := resolveFrom_of_settles h empty

/-- The arguments resolve exactly if every parameter is bound or left out. -/
theorem exists_resolve_eq_ok_iff :
  (∃ a, resolve s e = .ok a) ↔ ∀ d ∈ s.entries, Settles e d.1 d.2
  := by
  constructor
  · rintro ⟨a, ha⟩
    apply (settles_or_first_fails e s.entries).resolve_right
    rintro ⟨before, d, after, error, hentries, hbefore, hfails⟩
    rw [resolve, hentries, resolveFrom_of_first_fails hbefore hfails] at ha
    contradiction
  · intro h
    exact ⟨_, resolve_of_settles h⟩

/-- The error is that of the first parameter that is neither bound nor left out. -/
theorem resolve_eq_error_iff {error : ResolutionError} :
  resolve s e = .error error ↔ ∃ before name p after, s.entries = before ++ (name, p) :: after
    ∧ (∀ d ∈ before, Settles e d.1 d.2) ∧ Fails e name p error
  := by
  constructor
  · intro h
    obtain hall | ⟨before, d, after, error', hentries, hbefore, hfails⟩ :=
      settles_or_first_fails e s.entries
    · obtain ⟨a, ha⟩ := exists_resolve_eq_ok_iff.mpr hall
      rw [h] at ha
      contradiction
    · rw [resolve, hentries, resolveFrom_of_first_fails hbefore hfails, Except.error.injEq] at h
      exact ⟨before, d.1, d.2, after, hentries, hbefore, h ▸ hfails⟩
  · rintro ⟨before, name, p, after, hentries, hbefore, hfails⟩
    rw [resolve, hentries, resolveFrom_of_first_fails hbefore hfails]

/-- The entries of the arguments are those of the parameters that are bound, in their order. -/
theorem entries_of_resolve (h : resolve s e = .ok a) :
  a.table.entries = s.entries.filterMap (binding? e)
  := by
  have hsettles := exists_resolve_eq_ok_iff.mp ⟨a, h⟩
  rw [resolve_of_settles hsettles, Except.ok.injEq] at h
  rw [← h]
  apply Table.entries_ofList
  rw [keys_filterMap_binding? hsettles]
  apply s.nodup.filter

/-- The names of the arguments are the declared ones that a value is given for. -/
theorem keys_of_resolve (h : resolve s e = .ok a) :
  a.table.keys = s.names.filter fun name => (e.supplied? name).isSome
  := by
  rw [Table.keys, entries_of_resolve h, keys_filterMap_binding? (exists_resolve_eq_ok_iff.mp ⟨a, h⟩)]
  rfl

/-- The argument of a name is what the parameter of this name is bound to. -/
theorem get?_of_resolve (h : resolve s e = .ok a) {name : String} {v : Argument} :
  a.get? name = some v ↔ ∃ p, s.get? name = some p ∧ Binds e name p v
  := by
  rw [get?, Table.get?_eq_some_iff, entries_of_resolve h, List.mem_filterMap]
  constructor
  · rintro ⟨⟨_, p⟩, hd, hentry⟩
    obtain ⟨rfl, hbinds⟩ := binding?_eq_some_iff.mp hentry
    exact ⟨p, Signature.get?_eq_some_iff.mpr hd, hbinds⟩
  · rintro ⟨p, hp, hbinds⟩
    exact ⟨(name, p), Signature.get?_eq_some_iff.mp hp, binding?_of_binds hbinds⟩

/-! ### What the arguments depend on -/

/-- Nothing matters to the resolution but the directory and the values found for the declared names.
-/
theorem resolveFrom_congr {e' : CommandEnvelope} (hdirectory : e'.directory = e.directory)
    (h : ∀ d ∈ l, e'.supplied? d.1 = e.supplied? d.1) (a : Arguments) :
  resolveFrom e' l a = resolveFrom e l a
  := by
  induction l generalizing a with
  | nil => rfl
  | cons d rest ih =>
    obtain ⟨hd, hrest⟩ := List.forall_mem_cons.mp h
    have hone : resolveOne e' d.1 d.2 = resolveOne e d.1 d.2 := by
      rw [resolveOne, resolveOne, hd, hdirectory]
    rw [resolveFrom, resolveFrom, hone]
    simp only [ih hrest]

/-- The arguments depend on the directory and on the first values of the names that are
declared. -/
theorem resolve_congr {e' : CommandEnvelope} (hdirectory : e'.directory = e.directory)
    (h : ∀ name ∈ s.names, e'.supplied? name = e.supplied? name) :
  resolve s e' = resolve s e
  := by
  apply resolveFrom_congr hdirectory
  intro d hd
  apply h d.1 (List.mem_map_of_mem hd)

/-- With other values the arguments stay, as long as the first values of the declared names do. -/
theorem resolve_of_find?_eq {given : List Supplied}
    (h : ∀ name ∈ s.names, given.find? (·.name == name) = e.supplied.find? (·.name == name)) :
  resolve s { e with supplied := given } = resolve s e
  := by
  apply resolve_congr
  · rfl
  · apply h

/-! ### Values that make no difference -/

section

variable {name : String} {given given' : List Supplied}

/-- Values of names that are not declared are passed over. -/
theorem find?_filter_declared (h : name ∈ s.names) (given : List Supplied) :
  (given.filter fun x => s.contains x.name).find? (·.name == name) = given.find? (·.name == name)
  := by
  have hdeclared (x : Supplied) :
      decide (s.contains x.name = true ∧ (x.name == name) = true) = (x.name == name) := by
    by_cases hx : x.name = name
    · simp [hx, Signature.contains_iff.mpr h]
    · simp [hx]
  rw [List.find?_filter]
  simp only [hdeclared]

/-- Values after the first of their name are passed over. -/
theorem find?_repeated {before repeated : List Supplied}
    (h : ∀ x ∈ repeated, x.name ∈ before.map Supplied.name) (after : List Supplied) :
  (before ++ repeated ++ after).find? (·.name == name)
    = (before ++ after).find? (·.name == name)
  := by
  rw [List.find?_append, List.find?_append, List.find?_append]
  cases hbefore : before.find? (·.name == name) with
  | some first => rfl
  | none =>
    have hrepeated : repeated.find? (·.name == name) = none := by
      rw [List.find?_eq_none] at hbefore ⊢
      intro x hx
      obtain ⟨y, hy, hname⟩ := List.mem_map.mp (h x hx)
      rw [← hname]
      apply hbefore y hy
    rw [hrepeated]
    rfl

/-- The first value of a name is the first among the values of this name. -/
theorem find?_of_filter_eq (h : given'.filter (·.name == name) = given.filter (·.name == name)) :
  given'.find? (·.name == name) = given.find? (·.name == name)
  := by
  rw [← List.head?_filter, ← List.head?_filter, h]

/-- Where all names are distinct, the values of a name are the same in any order. -/
theorem filter_of_perm (hperm : given'.Perm given) (hnodup : (given.map Supplied.name).Nodup) :
  given'.filter (·.name == name) = given.filter (·.name == name)
  := by
  have hsingle {l : List Supplied} (hl : (l.map Supplied.name).Nodup) :
      (l.filter (·.name == name)).Pairwise fun _ _ => False := by
    rw [List.Nodup, List.pairwise_map] at hl
    apply (hl.filter _).imp_of_mem
    intro x y hx hy hne
    apply hne
    rw [beq_iff_eq.mp (List.mem_filter.mp hx).2, beq_iff_eq.mp (List.mem_filter.mp hy).2]
  have hnodup' : (given'.map Supplied.name).Nodup := (hperm.map _).nodup_iff.mpr hnodup
  apply (hperm.filter _).eq_of_pairwise _ (hsingle hnodup') (hsingle hnodup)
  rintro x y - - ⟨⟩

end

/-- Whatever values are given for a command, in whatever order: the arguments resolve exactly if
every parameter is bound to what the first value of its name resolves to, that value being of its
kind, or has no value and is not required.  Then the arguments have the declared names that a value
is given for, and under each what its parameter is bound to.  Otherwise the error is that of the
first parameter, in the order of declaration, that fails.

Values of names that are not declared make no difference, nor do values that come after one of
their name, nor does the order of values of different names. -/
theorem resolve_exact (s : Signature) (e : CommandEnvelope) :
  ((∃ a, resolve s e = .ok a) ↔ ∀ d ∈ s.entries, Settles e d.1 d.2)
    ∧ (∀ a, resolve s e = .ok a →
        a.table.keys = s.names.filter (fun name => (e.supplied? name).isSome)
          ∧ ∀ name v, a.get? name = some v ↔ ∃ p, s.get? name = some p ∧ Binds e name p v)
    ∧ (∀ error, resolve s e = .error error
        ↔ ∃ before name p after, s.entries = before ++ (name, p) :: after
            ∧ (∀ d ∈ before, Settles e d.1 d.2) ∧ Fails e name p error)
    ∧ (∀ given, given.filter (fun x => s.contains x.name)
          = e.supplied.filter (fun x => s.contains x.name) →
        resolve s { e with supplied := given } = resolve s e)
    ∧ (∀ before repeated after, e.supplied = before ++ after →
        (∀ x ∈ repeated, x.name ∈ before.map Supplied.name) →
        resolve s { e with supplied := before ++ repeated ++ after } = resolve s e)
    ∧ (∀ given, (∀ name, given.filter (·.name == name) = e.supplied.filter (·.name == name)) →
        resolve s { e with supplied := given } = resolve s e)
    ∧ (∀ given, given.Perm e.supplied → (e.supplied.map Supplied.name).Nodup →
        resolve s { e with supplied := given } = resolve s e)
  := by
  refine ⟨exists_resolve_eq_ok_iff, ?bound, fun error => resolve_eq_error_iff, ?undeclared,
    ?repeated, ?reordered, ?permuted⟩
  case bound =>
    intro a ha
    exact ⟨keys_of_resolve ha, fun name v => get?_of_resolve ha⟩
  case undeclared =>
    intro given hgiven
    apply resolve_of_find?_eq
    intro name hname
    rw [← find?_filter_declared hname, hgiven, find?_filter_declared hname]
  case repeated =>
    intro before repeated after hsupplied hrepeated
    apply resolve_of_find?_eq
    intro name hname
    rw [hsupplied]
    apply find?_repeated hrepeated
  case reordered =>
    intro given hgiven
    apply resolve_of_find?_eq
    intro name hname
    apply find?_of_filter_eq (hgiven name)
  case permuted =>
    intro given hperm hnodup
    apply resolve_of_find?_eq
    intro name hname
    apply find?_of_filter_eq (filter_of_perm hperm hnodup)

end InteractionRouting.Arguments
