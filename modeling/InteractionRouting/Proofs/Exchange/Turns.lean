import InteractionRouting.Proofs.Conduct.Runs
import InteractionRouting.Proofs.Exchange.Callbacks

/-!
# Turns

On an event everyone has a turn whose turn it is: party by party the subscribers of its tag, in
their order, and the handler that a router runs.  The list of turns is read off the parties before
any of them is taken, so it does not depend on what becomes of them.

How a turn goes is said by rules: it has an outcome, with a failure or without, or none because a
panic gets out.  What comes of an event at its parties is what comes of the turns, one after the
other, to the end or to the first that has no outcome.
-/

namespace InteractionRouting

variable {ν : Type}

/-! ### One delivery after the other -/

namespace Delivery

/-- An event for which nobody was there adds nothing in front. -/
theorem none_append (d : Delivery ν) :
  none ++ d = d
  := by
  obtain ⟨_ | ⟨delivered, failures⟩, happenings⟩ := d
  · rfl
  · show Delivery.mk (some ⟨0 + delivered, failures⟩) happenings = _
    rw [Nat.zero_add]

/-- Nothing comes after a panic that got out. -/
theorem append_of_outcome_eq_none {d : Delivery ν} (h : d.outcome = .none) (d' : Delivery ν) :
  d ++ d' = d
  := by
  obtain ⟨outcome, happenings⟩ := d
  obtain rfl : outcome = .none := h
  rfl

/-- An event for which nobody was there adds nothing at the end. -/
theorem append_none (d : Delivery ν) :
  d ++ none = d
  := by
  obtain ⟨_ | ⟨delivered, failures⟩, happenings⟩ := d
  · rfl
  · show Delivery.mk (some ⟨delivered + 0, failures ++ []⟩) (happenings ++ []) = _
    rw [Nat.add_zero, List.append_nil, List.append_nil]

/-- It does not matter which of three deliveries are brought together first. -/
theorem append_assoc (d e f : Delivery ν) :
  d ++ e ++ f = d ++ (e ++ f)
  := by
  obtain ⟨_ | o, happenings⟩ := d
  · rfl
  obtain ⟨_ | o', happenings'⟩ := e
  · rfl
  obtain ⟨_ | o'', happenings''⟩ := f
  · show Delivery.mk .none (_ ++ _ ++ _) = _
    rw [List.append_assoc]
    rfl
  · show Delivery.mk (some ⟨_ + _ + _, _ ++ _ ++ _⟩) (_ ++ _ ++ _) = _
    rw [Nat.add_assoc, List.append_assoc, List.append_assoc]
    rfl

end Delivery

/-! ### Whose turn it is -/

/-- One that has its turn on an event. -/
inductive Turn (ν : Type) where
  /-- A subscriber, by its place among those of the tag. -/
  | subscriber (target : String) (place : Nat) (call : Subscriber ν)
  /-- A handler that a router runs. -/
  | handler (target : String) (invocation : Router.Invocation ν)
  /-- A router that refuses the event before it runs a handler. -/
  | refusal (target label error : String)

/-- Whether a subscriber or a handler is run. -/
def Turn.isRun : Turn ν → Bool
  | subscriber _ _ _ | handler _ _ => true
  | refusal _ _ _ => false

/-- The turn that a decision of a router comes to, if it comes to one. -/
def Router.Decision.turns (target : String) : Decision ν → List (Turn ν)
  | pass => []
  | refuse label error => [.refusal target label error]
  | run label interaction conduct => [.handler target ⟨label, interaction, conduct⟩]

/-- Those whose turn it is on an event. -/
def Party.turns (tag : String) (payload : Json) : Party ν → List (Turn ν)
  | router r => (r.decision tag payload).turns r.name
  | fanout f => (f.subscribersOf tag).zipIdx.map fun s => .subscriber f.label s.2 s.1

/-- A subscriber comes after those that subscribed to its tag before, and after no others. -/
theorem Fanout.subscribersOf_subscribe (f : Fanout ν) (tag tag' : String) (s : Subscriber ν) :
  (f.subscribe tag s).subscribersOf tag'
    = f.subscribersOf tag' ++ if tag = tag' then [s] else []
  := by
  rw [subscribersOf, subscribe, Table.get?_insert]
  by_cases htag : tag = tag'
  · rw [if_pos htag.symm, if_pos htag, htag]
    rfl
  · rw [if_neg (Ne.symm htag), if_neg htag, List.append_nil]
    rfl

/-! ### How turns go -/

namespace Turn

/-- A turn goes in this way, after the platform calls made before: this happens in it, and this is
the outcome, if it has one.  A subscriber is called with the payload of the event. -/
inductive Goes (p : Platform) (tag : String) (payload : Json) (past : List Call) :
    Turn ν → List (Happening ν) → Option Outcome → Prop
  | subscriber {target : String} {place : Nat} {call : Subscriber ν}
      {happenings : List (Happening ν)} {ending : Ending} {outcome : Option Outcome}
      (h : (call payload).Goes Errand.Goes happenings ending)
      (hreported : ending.Reported target tag s!"#{place}" outcome) :
      Goes p tag payload past (.subscriber target place call) happenings outcome
  | handler {target : String} {i : Router.Invocation ν} {happenings : List (Happening ν)}
      {ending : Ending} {outcome : Option Outcome}
      (h : i.conduct.Goes p past i.interaction happenings ending)
      (hreported : ending.Reported target tag i.subscriber outcome) :
      Goes p tag payload past (.handler target i) happenings outcome
  | refusal (target label error : String) :
      Goes p tag payload past (.refusal target label error) []
        (some ⟨0, [⟨target, tag, label, error, false⟩]⟩)

/-- Turns are taken one after the other, each after the platform calls made before, and all of them
have an outcome: this happens in them, and these are the failures. -/
inductive Course (p : Platform) (tag : String) (payload : Json) :
    List Call → List (Turn ν) → List (Happening ν) → List Failure → Prop
  | done (past : List Call) : Course p tag payload past [] [] []
  | next {past : List Call} {t : Turn ν} {rest : List (Turn ν)} {o : Outcome}
      {happenings more : List (Happening ν)} {failures : List Failure}
      (h : t.Goes p tag payload past happenings (some o))
      (hrest : Course p tag payload (past ++ Happening.calls happenings) rest more failures) :
      Course p tag payload past (t :: rest) (happenings ++ more) (o.failures ++ failures)

/-- Turns are taken one after the other up to one that has no outcome: these are taken, that one
among them, and this happens in them. -/
inductive CutShort (p : Platform) (tag : String) (payload : Json) :
    List Call → List (Turn ν) → List (Turn ν) → List (Happening ν) → Prop
  | here {past : List Call} {t : Turn ν} {happenings : List (Happening ν)}
      (h : t.Goes p tag payload past happenings none) (rest : List (Turn ν)) :
      CutShort p tag payload past (t :: rest) [t] happenings
  | later {past : List Call} {t : Turn ν} {rest taken : List (Turn ν)} {o : Outcome}
      {happenings more : List (Happening ν)}
      (h : t.Goes p tag payload past happenings (some o))
      (hrest : CutShort p tag payload (past ++ Happening.calls happenings) rest taken more) :
      CutShort p tag payload past (t :: rest) (t :: taken) (happenings ++ more)

/-- Every error that is returned in a turn, whenever it is taken, says something. -/
def Tells (p : Platform) (payload : Json) : Turn ν → Prop
  | subscriber _ _ call => ∀ happenings error,
      (call payload).Goes Errand.Goes happenings (.failure error) → ∃ text, error.told = .ok text
  | handler _ i => ∀ past happenings error,
      i.conduct.Goes p past i.interaction happenings (.failure error) →
        ∃ text, error.told = .ok text
  | refusal _ _ _ => True

/-! ### What comes of turns -/

/-- What comes of a turn. -/
def delivery (p : Platform) (past : List Call) (tag : String) (payload : Json) :
    Turn ν → Delivery ν
  | subscriber target place call =>
    let errand := Errand.ofAttempt (call payload)
    .ofRun target tag s!"#{place}" errand.ending (errand.notes.map .note)
  | handler target i => i.deliver target p past tag
  | refusal target label error => .refused target tag label error

/-- What comes of turns that are taken one after the other. -/
def deliverAll (p : Platform) (tag : String) (payload : Json) :
    List Call → List (Turn ν) → Delivery ν
  | _, [] => .none
  | past, t :: rest =>
    let d := t.delivery p past tag payload
    d ++ deliverAll p tag payload (past ++ Happening.calls d.happenings) rest

section

variable {p : Platform} {tag : String} {payload : Json} {past : List Call} {t : Turn ν}
  {turns taken : List (Turn ν)} {happenings : List (Happening ν)} {outcome : Option Outcome}
  {failures : List Failure}

/-- A turn goes in one way, namely as it comes out. -/
theorem Goes.delivery_eq (h : t.Goes p tag payload past happenings outcome) :
  t.delivery p past tag payload = ⟨outcome, happenings⟩
  := by
  cases h with
  | subscriber h hreported =>
    obtain ⟨rfl, rfl⟩ := Errand.goes_iff.mp h
    apply hreported.ofRun_eq
  | handler h hreported =>
    obtain ⟨rfl, rfl⟩ := Conduct.goes_iff.mp h
    apply hreported.ofRun_eq
  | refusal => rfl

/-- An outcome of a turn counts it if it is run. -/
theorem Goes.delivered_eq {o : Outcome} (h : t.Goes p tag payload past happenings (some o)) :
  o.delivered = [t].countP isRun
  := by
  cases h with
  | subscriber _ hreported | handler _ hreported =>
    cases hreported with
    | success | failure => rfl
  | refusal => rfl

/-- Every turn goes in some way. -/
theorem exists_goes (p : Platform) (tag : String) (payload : Json) (past : List Call)
    (t : Turn ν) :
  ∃ happenings outcome, t.Goes p tag payload past happenings outcome
  := by
  cases t with
  | subscriber target place call =>
    obtain ⟨outcome, hreported⟩ :=
      (Errand.ofAttempt (call payload)).ending.exists_reported target tag s!"#{place}"
    exact ⟨_, outcome, .subscriber (Errand.goes_ofAttempt (call payload)) hreported⟩
  | handler target i =>
    obtain ⟨outcome, hreported⟩ :=
      (i.conduct.run p past i.interaction).ending.exists_reported target tag i.subscriber
    exact ⟨_, outcome, .handler (i.conduct.goes_run p past i.interaction) hreported⟩
  | refusal target label error => exact ⟨_, _, .refusal target label error⟩

/-- When all turns have an outcome, the outcome of the event counts those that are run, and has the
failures. -/
theorem Course.deliverAll_eq (h : Course p tag payload past turns happenings failures) :
  deliverAll p tag payload past turns = ⟨some ⟨turns.countP isRun, failures⟩, happenings⟩
  := by
  induction h with
  | done past => rfl
  | @next past t rest o happenings more failures h _ ih =>
    rw [← List.singleton_append, List.countP_append, ← h.delivered_eq, List.singleton_append,
      deliverAll, h.delivery_eq]
    dsimp only
    rw [ih]
    rfl

/-- When turns are cut short, the event has no outcome, and nothing happens after. -/
theorem CutShort.deliverAll_eq (h : CutShort p tag payload past turns taken happenings) :
  deliverAll p tag payload past turns = ⟨none, happenings⟩
  := by
  induction h with
  | here h rest =>
    rw [deliverAll, h.delivery_eq]
    rfl
  | later h _ ih =>
    rw [deliverAll, h.delivery_eq]
    dsimp only
    rw [ih]
    rfl

/-- The turns that are taken are the first of those whose turn it is. -/
theorem CutShort.isPrefix (h : CutShort p tag payload past turns taken happenings) :
  taken <+: turns
  := by
  induction h with
  | here h rest => exact ⟨rest, rfl⟩
  | later h _ ih => exact (List.prefix_cons_inj _).mpr ih

/-- All turns have an outcome, or they are cut short by one that has none. -/
theorem course_or_cutShort (p : Platform) (tag : String) (payload : Json) (past : List Call)
    (turns : List (Turn ν)) :
  (∃ happenings failures, Course p tag payload past turns happenings failures)
    ∨ ∃ taken happenings, CutShort p tag payload past turns taken happenings
  := by
  induction turns generalizing past with
  | nil => exact .inl ⟨_, _, .done past⟩
  | cons t rest ih =>
    obtain ⟨happenings, _ | o, hgoes⟩ := exists_goes p tag payload past t
    · exact .inr ⟨_, _, .here hgoes rest⟩
    · obtain ⟨more, failures, hcourse⟩ | ⟨taken, more, hcut⟩ :=
        ih (past ++ Happening.calls happenings)
      · exact .inl ⟨_, _, .next hgoes hcourse⟩
      · exact .inr ⟨_, _, .later hgoes hcut⟩

/-- A turn in which every error says something has an outcome. -/
theorem Tells.not_goes_none (ht : t.Tells p payload) :
  ¬ t.Goes p tag payload past happenings none
  := by
  intro hgoes
  cases hgoes with
  | subscriber h hreported =>
    obtain ⟨error, rfl, panic, hpanic⟩ := hreported.exists_panic
    obtain ⟨text, htext⟩ := ht _ _ h
    rw [hpanic] at htext
    contradiction
  | handler h hreported =>
    obtain ⟨error, rfl, panic, hpanic⟩ := hreported.exists_panic
    obtain ⟨text, htext⟩ := ht _ _ _ h
    rw [hpanic] at htext
    contradiction

/-- Turns in which every error says something are not cut short. -/
theorem CutShort.exists_not_tells (h : CutShort p tag payload past turns taken happenings) :
  ∃ t ∈ turns, ¬ t.Tells p payload
  := by
  induction h with
  | @here past t happenings h rest =>
    refine ⟨t, List.mem_cons_self, ?_⟩
    intro htells
    apply htells.not_goes_none h
  | later h _ ih =>
    obtain ⟨t, ht, htells⟩ := ih
    exact ⟨t, List.mem_cons_of_mem _ ht, htells⟩

/-- All turns have their outcomes if every error in them says something. -/
theorem exists_course_of_tells (h : ∀ t ∈ turns, t.Tells p payload) (tag : String)
    (past : List Call) :
  ∃ happenings failures, Course p tag payload past turns happenings failures
  := by
  apply (course_or_cutShort p tag payload past turns).resolve_right
  rintro ⟨taken, happenings, hcut⟩
  obtain ⟨t, ht, htells⟩ := hcut.exists_not_tells
  exact htells (h t ht)

end

/-- Turns that follow others come after the platform calls made in those. -/
theorem deliverAll_append (p : Platform) (tag : String) (payload : Json) (past : List Call)
    (turns more : List (Turn ν)) :
  deliverAll p tag payload past (turns ++ more)
    = deliverAll p tag payload past turns
      ++ deliverAll p tag payload
          (past ++ Happening.calls (deliverAll p tag payload past turns).happenings) more
  := by
  induction turns generalizing past with
  | nil =>
    rw [deliverAll, Delivery.none_append]
    exact congrArg (deliverAll p tag payload · more) (List.append_nil past).symm
  | cons t rest ih =>
    rw [List.cons_append, deliverAll, deliverAll, Delivery.append_assoc]
    cases houtcome : (t.delivery p past tag payload).outcome with
    | none =>
      rw [Delivery.append_of_outcome_eq_none houtcome, Delivery.append_of_outcome_eq_none houtcome]
    | some o =>
      rw [ih, Delivery.happenings_append, houtcome, if_pos Option.isSome_some,
        Happening.calls_append, List.append_assoc]

end Turn

/-- A fanout takes the turns of its subscribers one after the other. -/
theorem Fanout.dispatch_eq (f : Fanout ν) (p : Platform) (past : List Call) (tag : String)
    (payload : Json) :
  f.dispatch tag payload
    = Turn.deliverAll p tag payload past ((Party.fanout f).turns tag payload)
  := by
  have hfoldl (l : List (Subscriber ν × Nat)) (past : List Call) (d : Delivery ν) :
      (l.map fun s => f.deliverTo tag payload s.1 s.2).foldl (· ++ ·) d
        = d ++ Turn.deliverAll p tag payload past (l.map fun s => .subscriber f.label s.2 s.1) := by
    -- the turns after the first come after what happened in it
    induction l generalizing past d with
    | nil => exact d.append_none.symm
    | cons s rest ih =>
      rw [List.map_cons, List.foldl_cons, ih, Delivery.append_assoc]
      rfl
  exact (hfoldl _ past .none).trans (Delivery.none_append _)

/-- A router takes the turn that its decision comes to. -/
theorem Router.dispatch_eq (r : Router ν) (p : Platform) (past : List Call) (tag : String)
    (payload : Json) :
  r.dispatch p past tag payload
    = Turn.deliverAll p tag payload past ((Party.router r).turns tag payload)
  := by
  rw [dispatch, Party.turns]
  cases r.decision tag payload with
  | pass => rfl
  | refuse subscriber error => rfl
  | run subscriber interaction conduct => exact (Delivery.append_none _).symm

namespace Exchange

/-- What comes of an event at all parties is what comes of all turns, party by party. -/
theorem deliver_eq (p : Platform) (tag : String) (payload : Json) (past : List Call)
    (parties : List (Party ν)) :
  deliver p tag payload past parties
    = Turn.deliverAll p tag payload past (parties.flatMap (·.turns tag payload))
  := by
  induction parties generalizing past with
  | nil => rfl
  | cons party rest ih =>
    have hparty : party.dispatch p past tag payload
        = Turn.deliverAll p tag payload past (party.turns tag payload) := by
      cases party with
      | router r => apply r.dispatch_eq
      | fanout f => apply f.dispatch_eq
    rw [deliver, List.flatMap_cons, Turn.deliverAll_append, ih, hparty]

/-- An event has no outcome at its parties exactly if the turns are cut short. -/
theorem outcome_deliver_eq_none_iff {p : Platform} {tag : String} {payload : Json}
    {past : List Call} {parties : List (Party ν)} :
  (deliver p tag payload past parties).outcome = none
    ↔ ∃ taken happenings,
        Turn.CutShort p tag payload past (parties.flatMap (·.turns tag payload)) taken happenings
  := by
  rw [deliver_eq]
  constructor
  · intro hnone
    apply (Turn.course_or_cutShort p tag payload past _).resolve_left
    rintro ⟨happenings, failures, hcourse⟩
    rw [hcourse.deliverAll_eq] at hnone
    contradiction
  · rintro ⟨taken, happenings, hcut⟩
    rw [hcut.deliverAll_eq]

end Exchange

end InteractionRouting
