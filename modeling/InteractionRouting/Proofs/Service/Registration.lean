import InteractionRouting.Proofs.EventLoop.Manifests
import InteractionRouting.Proofs.Service.Assembly

/-!
# Registration

A service may be changed and started again and again before it is run.  Its commands are registered
by the first start that succeeds and by none after it.  A start that is refused leaves the service
as it was, so the next one hands over whatever is to be registered by then.  A service that cannot
start handles no events, and handling events registers nothing.
-/

namespace InteractionRouting

variable {ν : Type}

namespace Service

/-! ### Single starts -/

/-- What starting a service comes to, after the manifests that were handed over before. -/
inductive Starts (s : Service ν) (past : List Manifest) : Started ν → Prop where
  /-- The service had started before. -/
  | again (hstarted : s.started = true) : Starts s past ⟨s, .ok (), none⟩
  /-- Nothing is to be registered, or there is nobody to register it. -/
  | silent (hstarted : s.started = false)
      (hsilent : s.config.registration.onStart = false ∨ s.registrar = none) :
      Starts s past ⟨{ s with started := true }, .ok (), none⟩
  | registered {r : Registrar} (hstarted : s.started = false)
      (hwanted : s.config.registration.onStart = true) (hregistrar : s.registrar = some r)
      (haccepted : r.refusal past s.compile = none) :
      Starts s past ⟨{ s with started := true }, .ok (), some s.compile⟩
  | refused {r : Registrar} {e : PlatformError} (hstarted : s.started = false)
      (hwanted : s.config.registration.onStart = true) (hregistrar : s.registrar = some r)
      (hrefused : r.refusal past s.compile = some e) :
      Starts s past ⟨s, .error ⟨e⟩, some s.compile⟩

/-- Starting a service comes to nothing else. -/
theorem starts_start (s : Service ν) (past : List Manifest) :
  Starts s past (s.start past)
  := by
  rw [start]
  cases hstarted : s.started with
  | true => exact .again hstarted
  | false =>
    rw [if_neg Bool.false_ne_true]
    cases hwanted : s.config.registration.onStart with
    | false => exact .silent hstarted (.inl hwanted)
    | true =>
      rw [if_pos rfl]
      obtain hregistrar | ⟨r, hregistrar⟩ := s.registrar.eq_none_or_eq_some
      · simp only [hregistrar]
        rw [← hregistrar]
        exact .silent hstarted (.inr hregistrar)
      · simp only [hregistrar]
        rw [← hregistrar]
        cases hrefusal : r.refusal past s.compile with
        | none => exact .registered hstarted hwanted hregistrar hrefusal
        | some e => exact .refused hstarted hwanted hregistrar hrefusal

/-- A start that succeeds marks the service as started, one that is refused changes nothing, and
nothing else is ever changed. -/
theorem Starts.service_eq {s : Service ν} {past : List Manifest} {d : Started ν}
    (h : Starts s past d) :
  d.service = { s with started := s.started || d.result.isOk }
  := by
  cases h with
  | again hstarted =>
    rw [hstarted, Bool.true_or, ← hstarted]
  | silent hstarted hsilent =>
    rw [hstarted]
    rfl
  | registered hstarted hwanted hregistrar haccepted =>
    rw [hstarted]
    rfl
  | refused hstarted hwanted hregistrar hrefused =>
    rw [hstarted, Bool.false_or]
    change s = { s with started := false }
    rw [← hstarted]

/-- Something is handed over just in case the service had not started, registration is wanted and
there is a registrar; it is what the service compiles to. -/
theorem Starts.manifest_eq {s : Service ν} {past : List Manifest} {d : Started ν}
    (h : Starts s past d) :
  d.manifest
    = if s.started = false ∧ s.config.registration.onStart = true ∧ s.registrar.isSome = true
      then some s.compile else none
  := by
  cases h with
  | again hstarted => simp [hstarted]
  | silent hstarted hsilent =>
    obtain hsilent | hsilent := hsilent
    · simp [hsilent]
    · simp [hsilent]
  | registered hstarted hwanted hregistrar haccepted => simp [hstarted, hwanted, hregistrar]
  | refused hstarted hwanted hregistrar hrefused => simp [hstarted, hwanted, hregistrar]

/-- When nothing is handed over, the start succeeds. -/
theorem Starts.result_eq_of_manifest_eq_none {s : Service ν} {past : List Manifest}
    {d : Started ν} (h : Starts s past d) (hnone : d.manifest = none) :
  d.result = .ok ()
  := by
  cases h with
  | again hstarted => rfl
  | silent hstarted hsilent => rfl
  | registered hstarted hwanted hregistrar haccepted => rfl
  | refused hstarted hwanted hregistrar hrefused => contradiction

/-- When something is handed over, the start succeeds just in case the registrar accepts it. -/
theorem Starts.result_eq_of_manifest_eq_some {s : Service ν} {past : List Manifest}
    {d : Started ν} (h : Starts s past d) {m : Manifest} (hsome : d.manifest = some m) :
  ∃ r, s.registrar = some r
    ∧ d.result = (r.refusal past m).elim (.ok ()) fun e => .error ⟨e⟩
  := by
  cases h with
  | again hstarted => contradiction
  | silent hstarted hsilent => contradiction
  | @registered r hstarted hwanted hregistrar haccepted =>
    obtain rfl := Option.some.inj hsome
    use r, hregistrar
    rw [haccepted]
    rfl
  | @refused r e hstarted hwanted hregistrar hrefused =>
    obtain rfl := Option.some.inj hsome
    use r, hregistrar
    rw [hrefused]
    rfl

/-! ### Changes and starts in any order -/

theorem isOk_iff {result : Except RegistrationError Unit} :
  result.isOk = true ↔ result = .ok ()
  := by
  cases result with
  | error e => simp [Except.isOk, Except.toBool]
  | ok u => simp [Except.isOk, Except.toBool]

/-- What is done with a service before it is run. -/
inductive Step (ν : Type) where
  | change (change : Change ν)
  | start

/-- The change, if the step is one. -/
def Step.change? : Step ν → Option (Change ν)
  | change d => some d
  | start => none

/-- A service, and what came of its starts so far, in order. -/
structure Course (ν : Type) where
  service : Service ν
  starts : List (Started ν)

namespace Course

/-- The manifests that were handed to a registrar. -/
def handed (c : Course ν) : List Manifest := c.starts.filterMap (·.manifest)

/-- What comes of starting the service now. -/
def start (c : Course ν) : Started ν := c.service.start c.handed

def next (c : Course ν) : Step ν → Course ν
  | .change d => { c with service := c.service.change d }
  | .start => ⟨c.start.service, c.starts ++ [c.start]⟩

end Course

/-- The course of a service that did not start before. -/
def course (s : Service ν) (steps : List (Step ν)) : Course ν :=
  steps.foldl Course.next ⟨s, []⟩

/-- The last step is taken after the others. -/
theorem course_concat (s : Service ν) (steps : List (Step ν)) (step : Step ν) :
  s.course (steps ++ [step]) = (s.course steps).next step
  := by
  rw [course, List.foldl_concat]
  rfl

/-- Changes do not depend on whether the service has started. -/
theorem change_setStarted (s : Service ν) (b : Bool) (d : Change ν) :
  ({ s with started := b } : Service ν).change d = { s.change d with started := b }
  := by
  cases d with
  | router r =>
    have hclash : ({ s with started := b } : Service ν).clash? r = s.clash? r := rfl
    cases h : s.clash? r with
    | none =>
      rw [change_router_of_no_clash h, change_router_of_no_clash (hclash.trans h)]
    | some c =>
      have hsome : s.clash? r ≠ none := by simp [h]
      rw [change_router_of_clash hsome, change_router_of_clash (hclash.trans_ne hsome)]
  | fanout f => rfl
  | registrar r => rfl
  | reporter reporter => rfl

/-- No change starts a service. -/
theorem started_change (s : Service ν) (d : Change ν) :
  (s.change d).started = s.started
  := by
  have hself := change_setStarted s s.started d
  rw [show ({ s with started := s.started } : Service ν) = s from rfl] at hself
  rw [hself]

/-- No change is one of the configuration. -/
theorem config_change (s : Service ν) (d : Change ν) :
  (s.change d).config = s.config
  := by
  cases d with
  | router r =>
    cases h : s.clash? r with
    | none => rw [change_router_of_no_clash h]
    | some c => rw [change_router_of_clash (by simp [h])]
  | fanout f => rfl
  | registrar r => rfl
  | reporter reporter => rfl

/-- No changes are changes of the configuration. -/
theorem config_assemble (s : Service ν) (changes : List (Change ν)) :
  (s.assemble changes).config = s.config
  := by
  induction changes generalizing s with
  | nil => rfl
  | cons d changes ih => exact (ih (s.change d)).trans (s.config_change d)

/-- Where there is a registrar there will always be one. -/
theorem isSome_registrar_assemble {s : Service ν} (h : s.registrar.isSome = true)
    (changes : List (Change ν)) :
  (s.assemble changes).registrar.isSome = true
  := by
  induction changes generalizing s with
  | nil => apply h
  | cons d changes ih =>
    apply ih
    cases d with
    | router r =>
      cases hclash : s.clash? r with
      | none =>
        rw [change_router_of_no_clash hclash]
        apply h
      | some c =>
        rw [change_router_of_clash (by simp [hclash])]
        apply h
    | fanout f => apply h
    | registrar r => rfl
    | reporter reporter => apply h

/-- What holds in the course of a service that was changed to `s` all in all. -/
structure Course.Orderly (s : Service ν) (c : Course ν) : Prop where
  /-- The starts change nothing but whether the service has started. -/
  service_eq : c.service = { s with started := c.service.started }
  started_iff : c.service.started = true ↔ ∃ d ∈ c.starts, d.result = .ok ()
  /-- After a start that succeeds every start succeeds, and nothing is handed over. -/
  silent : c.starts.Pairwise fun d d' =>
    d.result = .ok () → d'.manifest = none ∧ d'.result = .ok ()

/-- At most one start hands over something that is accepted. -/
theorem Course.Orderly.countP_le_one {s : Service ν} {c : Course ν} (h : c.Orderly s) :
  c.starts.countP (fun d => d.manifest.isSome && d.result.isOk) ≤ 1
  := by
  have hsilent := h.silent.filter fun d => d.manifest.isSome && d.result.isOk
  have hregistered : ∀ d ∈ c.starts.filter (fun d => d.manifest.isSome && d.result.isOk),
      d.manifest.isSome = true ∧ d.result = .ok () := by
    intro d hd
    have hd := (List.mem_filter.mp hd).2
    rw [Bool.and_eq_true, isOk_iff] at hd
    exact hd
  rw [List.countP_eq_length_filter]
  match hstarts : c.starts.filter (fun d => d.manifest.isSome && d.result.isOk) with
  | [] | [d] => simp [hstarts]
  | d :: d' :: rest =>
    rw [hstarts] at hsilent hregistered
    obtain ⟨hfirst, -⟩ := List.pairwise_cons.mp hsilent
    have hnone := (hfirst d' List.mem_cons_self (hregistered d List.mem_cons_self).2).1
    have hsome := (hregistered d' (List.mem_cons_of_mem _ List.mem_cons_self)).1
    rw [hnone] at hsome
    contradiction

/-- A course stays orderly when the service is changed. -/
theorem Course.Orderly.change {s : Service ν} {c : Course ν} (h : c.Orderly s) (d : Change ν) :
  (c.next (.change d)).Orderly (s.change d)
  := by
  constructor
  · change c.service.change d = { s.change d with started := (c.service.change d).started }
    rw [started_change, ← change_setStarted, ← h.service_eq]
  · change (c.service.change d).started = true ↔ _
    rw [started_change]
    apply h.started_iff
  · apply h.silent

/-- A course stays orderly when the service is started. -/
theorem Course.Orderly.start {s : Service ν} {c : Course ν} (h : c.Orderly s) :
  (c.next .start).Orderly s
  := by
  have hstarts : Starts c.service c.handed c.start := starts_start c.service c.handed
  have hservice : (c.next .start).service
      = { c.service with started := c.service.started || c.start.result.isOk } :=
    hstarts.service_eq
  constructor
  · rw [hservice]
    apply congrArg (fun t : Service ν =>
      ({ t with started := c.service.started || c.start.result.isOk } : Service ν)) h.service_eq
  · rw [hservice, Bool.or_eq_true, h.started_iff, isOk_iff]
    simp only [next, List.mem_append, List.mem_singleton, or_and_right, exists_or,
      exists_eq_left]
  · change (c.starts ++ [c.start]).Pairwise _
    rw [List.pairwise_append]
    refine ⟨h.silent, List.pairwise_singleton _ _, ?_⟩
    intro d hd d' hd' hsuccess
    rw [List.mem_singleton] at hd'
    subst hd'
    have hstarted : c.service.started = true := h.started_iff.mpr ⟨d, hd, hsuccess⟩
    have hnone : c.start.manifest = none := by
      rw [hstarts.manifest_eq, if_neg]
      simp [hstarted]
    exact ⟨hnone, hstarts.result_eq_of_manifest_eq_none hnone⟩

/-- Whatever is done with a service that has not started, its course is orderly. -/
theorem orderly_course {s : Service ν} (h : s.started = false) (steps : List (Step ν)) :
  (s.course steps).Orderly (s.assemble (steps.filterMap Step.change?))
  := by
  induction steps using List.reverseRecOn with
  | nil =>
    constructor
    · rfl
    · simp [course, h]
    · apply List.Pairwise.nil
  | append_singleton steps step ih =>
    rw [course_concat, List.filterMap_append]
    cases step with
    | change d =>
      have hassemble : s.assemble (steps.filterMap Step.change? ++ [d])
          = (s.assemble (steps.filterMap Step.change?)).change d := List.foldl_concat ..
      change ((s.course steps).next _).Orderly (s.assemble (_ ++ [d]))
      rw [hassemble]
      apply ih.change
    | start =>
      change ((s.course steps).next _).Orderly (s.assemble (_ ++ []))
      rw [List.append_nil]
      apply ih.start

/-! ### Runs -/

/-- Runs a service on some schedule of moves, after what happened before. -/
def runFollowing (s : Service ν) (events : List Event) (schedule : List EventLoop.Move)
    (past : List (Happening ν)) : Run ν :=
  let started := s.start (Happening.manifests past)
  let past := past ++ started.manifest.toList.map .registration
  match started.result with
  | .error _ => ⟨started, none⟩
  | .ok () =>
    ⟨started, some ((EventLoop.State.initial events past).follow started.service.loop schedule)⟩

/-- A service runs on the schedule that takes its events in order, or on the one that shuts it
down. -/
theorem run_eq_runFollowing (s : Service ν) (events : List Event) (shutDown : Bool)
    (past : List (Happening ν)) :
  s.run events shutDown past
    = s.runFollowing events (if shutDown then [.shutDown] else EventLoop.inOrder events) past
  := by
  rw [run, runFollowing]
  cases shutDown with
  | true => rfl
  | false => rfl

/-- Changes that come last change the service, and nothing else of its course. -/
theorem course_append_changes (s : Service ν) (steps : List (Step ν))
    (changes : List (Change ν)) :
  s.course (steps ++ changes.map .change)
    = { s.course steps with service := (s.course steps).service.assemble changes }
  := by
  induction changes using List.reverseRecOn with
  | nil =>
    rw [List.map_nil, List.append_nil]
    rfl
  | append_singleton changes d ih =>
    rw [List.map_append, ← List.append_assoc, List.map_singleton, course_concat, ih, assemble,
      assemble, List.foldl_concat]
    rfl

/-- A service that was refused is not marked as started, whatever is changed then, so that the
next start hands over what the service compiles to by then. -/
theorem Course.retries {c c' : Course ν} {e : RegistrationError} {later : List (Change ν)}
    (h : c.start.result = .error e) (hservice : c'.service = c.service.assemble later) :
  c'.start.manifest = some c'.service.compile
  := by
  have hstarted : (c.service.assemble later).started = c.service.started := by
    clear hservice
    induction later using List.reverseRecOn with
    | nil => rfl
    | append_singleton later d ih =>
      rw [assemble, List.foldl_concat, started_change]
      apply ih
  have hstarts : Starts c.service c.handed c.start := starts_start c.service c.handed
  have hstarts' : Starts c'.service c'.handed c'.start := starts_start c'.service c'.handed
  rw [hstarts'.manifest_eq, if_pos]
  rw [hservice, hstarted, config_assemble]
  generalize c.start = d at h hstarts
  cases hstarts with
  | again hstarted => contradiction
  | silent hstarted hsilent => contradiction
  | registered hstarted hwanted hregistrar haccepted => contradiction
  | @refused r e hunstarted hwanted hregistrar hrefused =>
    refine ⟨hunstarted, hwanted, ?_⟩
    apply isSome_registrar_assemble
    rw [hregistrar]
    rfl

/-- There is a loop just in case the start succeeds, and it registers nothing. -/
theorem runFollowing_cases (s : Service ν) (events : List Event) (schedule : List EventLoop.Move)
    (past : List (Happening ν)) :
  let d := s.start (Happening.manifests past)
  let run := s.runFollowing events schedule past
  run.started = d ∧ (run.loop.isSome = true ↔ d.result = .ok ())
    ∧ ∀ l, run.loop = some l →
      Happening.manifests l.happenings = Happening.manifests past ++ d.manifest.toList
  := by
  intro d run
  have hrun : run = s.runFollowing events schedule past := rfl
  rw [runFollowing] at hrun
  cases hresult : d.result with
  | error e =>
    have hresult : (s.start (Happening.manifests past)).result = .error e := hresult
    simp only [hresult] at hrun
    rw [hrun]
    refine ⟨rfl, ?_, ?_⟩
    · simp
    · intro l hl
      contradiction
  | ok u =>
    have hresult : (s.start (Happening.manifests past)).result = .ok () := hresult
    simp only [hresult] at hrun
    rw [hrun]
    refine ⟨rfl, ?_, ?_⟩
    · simp
    · intro l hl
      rw [← Option.some.inj hl, (EventLoop.sound_follow (EventLoop.sound_initial ..)
        schedule).accounts.serial.manifests_eq, Happening.manifests_append,
        Happening.manifests_map_registration]

/-- A service that was opened is changed and started in any order, with any answers of the
registrars it is given.  Up to then, and for the start that may come next:

* The starts have changed nothing but whether the service has started.
* After a start that succeeded every start succeeded, and nothing was handed to a registrar, so that
  at most one start handed over what was accepted.
* The next start hands over what the routers compile to by now, if no start succeeded before,
  registration is wanted and there is a registrar.  Otherwise it hands over nothing, and succeeds.
* If it is refused, then nothing changes, and after any further changes a start hands over what
  the routers compile to by then.
* If the service is run instead, on whatever schedule, then this is the start it is run from.  There
  are events taken and dispatched only if that start succeeds, and then nothing is registered
  besides.  A run that handles its events in order, or is shut down before the first, is on one of
  these schedules. -/
theorem registered_once {config : Config} {p : Platform} {registrar : Option Registrar}
    {opened : Service ν} (h : open? config p registrar = some opened) (steps : List (Step ν)) :
  let c := opened.course steps
  let s := opened.assemble (steps.filterMap Step.change?)
  let d := c.start
  c.service = { s with started := c.service.started }
    ∧ (c.service.started = true ↔ ∃ d' ∈ c.starts, d'.result = .ok ())
    ∧ (c.starts.Pairwise fun d d' => d.result = .ok () → d'.manifest = none ∧ d'.result = .ok ())
    ∧ c.starts.countP (fun d' => d'.manifest.isSome && d'.result.isOk) ≤ 1
    ∧ opened.course (steps ++ [.start]) = ⟨d.service, c.starts ++ [d]⟩
    ∧ (∀ m, d.manifest = some m ↔ m = s.compile ∧ (∀ d' ∈ c.starts, d'.result ≠ .ok ())
        ∧ config.registration.onStart = true ∧ s.registrar.isSome = true)
    ∧ (d.manifest = none → d.result = .ok ())
    ∧ (∀ m, d.manifest = some m → ∃ r, s.registrar = some r
        ∧ d.result = (r.refusal c.handed m).elim (.ok ()) fun e => .error ⟨e⟩)
    ∧ (d.result = .ok () → d.service = { c.service with started := true })
    ∧ (∀ e, d.result = .error e → d.service = c.service ∧ ∀ later : List (Change ν),
        let c' := opened.course (steps ++ [.start] ++ later.map .change)
        c'.service = c.service.assemble later ∧ c'.start.manifest = some c'.service.compile)
    ∧ (∀ (events : List Event) (schedule : List EventLoop.Move) (past : List (Happening ν)),
      Happening.manifests past = c.handed →
        let run := c.service.runFollowing events schedule past
        run.started = d ∧ (run.loop.isSome = true ↔ d.result = .ok ())
          ∧ ∀ l, run.loop = some l →
            Happening.manifests l.happenings = c.handed ++ d.manifest.toList)
    ∧ ∀ (events : List Event) (shutDown : Bool) (past : List (Happening ν)),
      c.service.run events shutDown past
        = c.service.runFollowing events
            (if shutDown then [.shutDown] else EventLoop.inOrder events) past
  := by
  intro c s d
  obtain ⟨hunstarted, hconfig⟩ : opened.started = false ∧ opened.config = config := by
    rw [open?, Option.ite_none_right_eq_some, Option.some.injEq] at h
    obtain ⟨-, rfl⟩ := h
    exact ⟨rfl, rfl⟩
  have horderly : c.Orderly s := orderly_course hunstarted steps
  have hstarts : Starts c.service c.handed d := starts_start c.service c.handed
  have hservice := horderly.service_eq
  have hcompile : c.service.compile = s.compile := by
    rw [hservice]
    rfl
  have hregistrar : c.service.registrar = s.registrar := by
    rw [hservice]
  have hwanted : c.service.config = config := by
    rw [hservice, ← hconfig]
    apply config_assemble
  have hnext : opened.course (steps ++ [.start]) = ⟨d.service, c.starts ++ [d]⟩ :=
    course_concat opened steps .start
  refine ⟨hservice, horderly.started_iff, horderly.silent, horderly.countP_le_one, hnext, ?_,
    hstarts.result_eq_of_manifest_eq_none, ?_, ?_, ?_, ?_, c.service.run_eq_runFollowing⟩
  · intro m
    have hfirst : c.service.started = false ↔ ∀ d' ∈ c.starts, d'.result ≠ .ok () := by
      rw [← Bool.not_eq_true, horderly.started_iff]
      simp
    rw [hstarts.manifest_eq, Option.ite_none_right_eq_some, hfirst, hwanted, hregistrar, hcompile,
      Option.some.injEq, and_comm, eq_comm]
  · intro m hm
    rw [← hregistrar]
    apply hstarts.result_eq_of_manifest_eq_some hm
  · intro hok
    rw [hstarts.service_eq, hok, Except.isOk, Except.toBool, Bool.or_true]
  · intro e he
    have hsame : d.service = c.service := by
      rw [hstarts.service_eq, he, Except.isOk, Except.toBool, Bool.or_false]
    use hsame
    intro later c'
    have hlater : c'.service = c.service.assemble later := by
      have hcourse := course_append_changes opened (steps ++ [.start]) later
      rw [hnext] at hcourse
      rw [← hsame]
      apply congrArg Course.service hcourse
    use hlater
    apply Course.retries he hlater
  · intro events schedule past hpast
    have hcases := c.service.runFollowing_cases events schedule past
    rw [hpast] at hcases
    apply hcases

/-- A registrar that refuses what is handed over first. -/
def fickle : Registrar := ⟨fun past _ => if past.isEmpty then some .notConnected else none⟩

/-- The first start is refused, the second one hands over the commands of the router that came in
between, too, and the third one hands over nothing. -/
theorem registered_once_on_retry :
  let command (name : String) : Command (CommandInput → Conduct Unit) :=
    ⟨name, "", .chat, none, .empty, fun _ => .giving (.finish .success)⟩
  let router (name : String) : Router Unit :=
    { Router.named name with catalogue := Catalogue.empty.addAll [command name] }
  let steps := [Step.change (.registrar fickle), .change (.router (router "a")), .start,
    .change (.router (router "b")), .start, .change (.router (router "c")), .start]
  ∃ opened : Service Unit, open? .standard obliging none = some opened
    ∧ let c := opened.course steps
      c.starts.map (·.manifest.map (·.commands.map (·.name))) = [some ["a"], some ["a", "b"], none]
        ∧ c.starts.map (·.result) = [.error ⟨.notConnected⟩, .ok (), .ok ()]
        ∧ c.starts.countP (fun d => d.manifest.isSome && d.result.isOk) ≤ 1
  := by
  intro command router steps
  obtain ⟨opened, hopen⟩ : ∃ opened : Service Unit, open? .standard obliging none = some opened :=
    ⟨_, rfl⟩
  use opened, hopen
  obtain ⟨-, -, -, honce, -⟩ := registered_once hopen steps
  obtain rfl := Option.some.inj hopen
  exact ⟨rfl, rfl, honce⟩

end Service

end InteractionRouting
