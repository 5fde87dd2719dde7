import InteractionRouting.Proofs.Config.Layering
import InteractionRouting.Proofs.Service.Assembly

/-!
# Services as they are set up

A service is set up with a configuration that is given or loaded, and its queue is to have as many
places as that says.  What is checked of a configuration bounds this number from below only, while
there are queues of at most `queueLimit` places.  So a configuration in which nothing is wrong may
ask for a queue that cannot be had, and asking for it is a panic.
-/

namespace InteractionRouting

namespace Config

/-- In a configuration in which nothing is wrong any number of places does, except zero. -/
theorem violation?_of_eventBuffer_ne_zero {c : Config} (h : c.violation? = none) {d : Dispatch}
    (hd : d.eventBuffer ≠ 0) :
  { c with dispatch := d }.violation? = none
  := by
  rw [Loader.violation?_eq_none_iff] at h ⊢
  obtain ⟨hfile, hmodules, -⟩ := h
  exact ⟨hfile, hmodules, hd⟩

end Config

namespace Service

variable {ν : Type}

/-! ### Queues -/

/-- The queue is to have as many places as the configuration says, unless it says none. -/
theorem queueSize_eq_iff {c : Config} :
  queueSize c = c.dispatch.eventBuffer.toNat ↔ c.dispatch.eventBuffer ≠ 0
  := by
  rw [queueSize, max_eq_left_iff, Nat.one_le_iff_ne_zero, ← UInt64.toNat_zero, ne_eq,
    UInt64.toNat_inj]

/-- Whatever a configuration says, its queue is to have at least one place. -/
theorem isQueueSize_queueSize_iff {c : Config} :
  isQueueSize (queueSize c) = true ↔ c.dispatch.eventBuffer.toNat ≤ queueLimit
  := by
  have hlimit : 1 ≤ queueLimit := by decide
  rw [isQueueSize, queueSize, Bool.and_eq_true, decide_eq_true_iff, decide_eq_true_iff,
    Nat.max_le]
  constructor
  · rintro ⟨-, hfits, -⟩
    apply hfits
  · intro hfits
    exact ⟨Nat.le_max_right _ 1, hfits, hlimit⟩

/-- A service is opened exactly if the places of its queue are not too many. -/
theorem open?_eq_ite {c : Config} {p : Platform} {registrar : Option Registrar} :
  (open? c p registrar : Option (Service ν))
    = if c.dispatch.eventBuffer.toNat ≤ queueLimit then some ⟨c, p, registrar, .empty, [], false⟩
      else none
  := by
  rw [open?]
  simp only [isQueueSize_queueSize_iff]

/-! ### Setting up -/

/-- The configuration to set up with is the one that is given, or else the one that is loaded. -/
theorem Setup.configuration_eq_ok_iff {setup : Setup} {around : Config.Surroundings} {c : Config} :
  setup.configuration around = .ok c
    ↔ setup.config = some c ∨ setup.config = none ∧ setup.loader.load around = .ok c
  := by
  rw [configuration]
  cases setup.config with
  | none => simp only [reduceCtorEq, true_and, false_or]
  | some given =>
    simp only [Except.ok.injEq, Option.some.injEq, reduceCtorEq, false_and, or_false]

/-- A service that has a platform and a configuration is set up, unless its queue cannot be had,
and then there is a panic. -/
theorem Setup.build_of_configuration {setup : Setup} {around : Config.Surroundings} {p : Platform}
    {c : Config} (hplatform : setup.platform = some p)
    (hconfiguration : setup.configuration around = .ok c) :
  (setup.build around : Outset ν)
    = if c.dispatch.eventBuffer.toNat ≤ queueLimit
      then .opened ⟨c, p, setup.registrar, .empty, [], false⟩
      else .panicked
  := by
  rw [build]
  simp only [hplatform, hconfiguration, open?_eq_ite]
  split_ifs
  · rfl
  · rfl

/-- With a configuration in which nothing is wrong:

* the queue is to have just as many places as the configuration says, and a service is opened
  exactly if these are at most `queueLimit`;
* a service that is opened has this configuration, and nothing in it;
* a service that is set up, with the configuration given or loaded, is opened if its queue fits, and
  otherwise there is a panic.

Nothing is wrong with the configuration for any other number of places either, except zero, so that
there are services that cannot be opened. -/
theorem opened_iff_fits {c : Config} (h : c.violation? = none) (p : Platform)
    (registrar : Option Registrar) :
  queueSize c = c.dispatch.eventBuffer.toNat
    ∧ ((∃ s : Service ν, open? c p registrar = some s)
      ↔ c.dispatch.eventBuffer.toNat ≤ queueLimit)
    ∧ (∀ s : Service ν, open? c p registrar = some s → s = ⟨c, p, registrar, .empty, [], false⟩)
    ∧ (∀ (setup : Setup) (around : Config.Surroundings), setup.platform = some p →
      (setup.config = some c ∨ setup.config = none ∧ setup.loader.load around = .ok c) →
        (setup.build around : Outset ν)
          = if c.dispatch.eventBuffer.toNat ≤ queueLimit
            then .opened ⟨c, p, setup.registrar, .empty, [], false⟩
            else .panicked)
    ∧ ∀ n : UInt64, n ≠ 0 →
      { c with dispatch := { c.dispatch with eventBuffer := n } }.violation? = none
  := by
  have hbuffer : c.dispatch.eventBuffer ≠ 0 := (Config.Loader.violation?_eq_none_iff.mp h).2.2
  refine ⟨queueSize_eq_iff.mpr hbuffer, ?_, ?_, ?_, ?_⟩
  · simp only [open?_eq_ite, Option.ite_none_right_eq_some, exists_and_left, Option.some.injEq,
      exists_eq', and_true]
  · intro s hs
    rw [open?_eq_ite, Option.ite_none_right_eq_some] at hs
    apply (Option.some.inj hs.2).symm
  · intro setup around hplatform hconfiguration
    apply Setup.build_of_configuration hplatform (Setup.configuration_eq_ok_iff.mpr hconfiguration)
  · intro n hn
    apply Config.violation?_of_eventBuffer_ne_zero h hn

/-- The configuration in which only the number of places in the queue is set. -/
def withPlaces (n : UInt64) : Config :=
  { Config.standard with dispatch := { Config.Dispatch.standard with eventBuffer := n } }

/-- The largest queue that can be had. -/
theorem opened_iff_fits_largest :
  let c := withPlaces 2305843009213693951
  c.violation? = none
    ∧ queueSize c = queueLimit
    ∧ ∃ s : Service Unit, open? c obliging none = some s ∧ s.config = c ∧ s.routers = []
  := by
  intro c
  have hvalid : c.violation? = none := rfl
  have hplaces : c.dispatch.eventBuffer.toNat = queueLimit := by
    decide
  obtain ⟨hsize, hopen, hopened, -⟩ := opened_iff_fits (ν := Unit) hvalid obliging none
  obtain ⟨s, hs⟩ := hopen.mpr hplaces.le
  refine ⟨hvalid, hsize.trans hplaces, s, hs, ?_⟩
  rw [hopened s hs]
  exact ⟨rfl, rfl⟩

/-! ### One place more -/

namespace OnePlaceMore

def demanding : Config := withPlaces 2305843009213693952

/-- There are no files and no variables. -/
def surroundings : Config.Surroundings := ⟨.empty, .root, none, []⟩

def loader : Config.Loader := (Config.Loader.standard surroundings).merge demanding

def setup : Setup := ⟨some obliging, none, none, loader⟩

/-- There is no file to be read. -/
theorem files_eq :
  loader.files surroundings = .ok []
  := by
  simp only [Config.Loader.files, Config.Surroundings.exists?, FileSystem.exists?,
    FileSystem.placeFrom?, Text.splitOn_slash]
  decide +kernel

/-- What is loaded is what was merged in. -/
theorem load_eq :
  loader.load surroundings = .ok demanding
  := by
  have hreads : loader.Reads surroundings [] [] [] :=
    ⟨Config.Loader.files_of_files_eq_ok files_eq, .nil, .nil⟩
  apply Config.Loader.load_of_reads hreads
  · rw [Config.Loader.grouped]
    rfl
  · rfl

end OnePlaceMore

open OnePlaceMore in
/-- With one place more nothing is wrong with the configuration, and it is loaded, but setting up a
service with it is a panic. -/
theorem not_opened_of_one_place_more :
  demanding.violation? = none
    ∧ demanding.dispatch.eventBuffer.toNat = queueLimit + 1
    ∧ (open? demanding obliging none : Option (Service Unit)) = none
    ∧ loader.load surroundings = .ok demanding
    ∧ (setup.build surroundings : Outset Unit) = .panicked
  := by
  have hlarge : ¬ demanding.dispatch.eventBuffer.toNat ≤ queueLimit := by
    decide
  refine ⟨rfl, by decide, ?_, load_eq, ?_⟩
  · rw [open?_eq_ite, if_neg hlarge]
  · have hconfiguration : setup.configuration surroundings = .ok demanding :=
      Setup.configuration_eq_ok_iff.mpr (.inr ⟨rfl, load_eq⟩)
    rw [Setup.build_of_configuration rfl hconfiguration, if_neg hlarge]

end Service

end InteractionRouting
