import InteractionRouting.Interaction
import Mathlib.Tactic.Common

/-!
# Interactions are answered once

A session is a live interaction with the platform calls that were made for it, after any
operations in any order.  Its first call is the callback, and there is no other callback; its
progress says which calls were made.  The next operation either is refused, without a call and
without a trace, or makes exactly one call.
-/

namespace InteractionRouting

/-- The call edits or deletes the first response. -/
def Call.SettlesResponse (c : Call) : Prop := c.kind = .editResponse ∨ c.kind = .deleteResponse

namespace Interaction

/-- A live interaction, and the calls that were made for it. -/
structure Session where
  interaction : Interaction
  /-- The platform calls, in order. -/
  calls : List Call

namespace Session

/-- An interaction that nothing was done with. -/
def fresh (id token : String) (origin : Origin) : Session := ⟨.fresh id token origin, []⟩

/-- Carries out an operation, after the platform calls made for others before. -/
def next (p : Platform) (past : List Call) (s : Session) (op : Operation) : Performed :=
  s.interaction.perform p (past ++ s.calls) op

/-- The session after an operation. -/
def perform (p : Platform) (past : List Call) (s : Session) (op : Operation) : Session :=
  ⟨(s.next p past op).interaction, s.calls ++ (s.next p past op).call.toList⟩

/-- The session after operations, one after the other. -/
def performAll (p : Platform) (past : List Call) (s : Session) (ops : List Operation) : Session :=
  ops.foldl (perform p past) s

end Session

/-- The platform refused nothing: the operation was out of turn. -/
def Performed.Refused (done : Performed) : Prop :=
  ∃ operation violation, done.reply = .error (.protocol operation violation)

/-- A callback may be sent: none was, and it does not answer a form with a form. -/
def MayAnswer (i : Interaction) (callback : Callback) : Prop :=
  i.progress.callbackSent = false ∧ ¬(callback.kind = .form ∧ i.origin = .modal)

/-- The operation is in turn: it answers and may, or it follows up on an answer. -/
def InTurn (i : Interaction) (op : Operation) : Prop :=
  match op.callback? with
  | some callback => i.MayAnswer callback
  | none => i.progress.callbackSent = true

/-- Nothing is wrong with an operation exactly if it is its turn. -/
theorem violation?_eq_none_iff {i : Interaction} {op : Operation} :
  i.violation? op = none ↔ i.InTurn op
  := by
  unfold violation? InTurn MayAnswer
  cases op.callback? with
  | none => simp
  | some callback =>
    simp only
    split_ifs with hform hsent
    · simp [hform]
    · simp [hsent]
    · simp [hform, hsent]

/-- An operation that is in turn makes its call, whatever the platform answers. -/
theorem perform_of_inTurn {i : Interaction} {op : Operation} (h : i.InTurn op) (p : Platform)
    (past : List Call) :
  i.perform p past op
    = ⟨{ i with progress := i.advance op }, (p.answer past (op.call i.id i.token)).mapError .platform,
        some (op.call i.id i.token)⟩
  := by
  rw [perform, violation?_eq_none_iff.mpr h]

/-- An operation that is out of turn leaves everything as it was. -/
theorem perform_of_not_inTurn {i : Interaction} {op : Operation} (h : ¬i.InTurn op) (p : Platform)
    (past : List Call) :
  ∃ violation, i.perform p past op = ⟨i, .error (.protocol op.name violation), none⟩
  := by
  obtain ⟨violation, hviolation⟩ :=
    Option.ne_none_iff_exists'.mp (mt violation?_eq_none_iff.mp h)
  use violation
  rw [perform, hviolation]

/-- Exactly the operations that are out of turn are refused. -/
theorem refused_iff {i : Interaction} {op : Operation} {p : Platform} {past : List Call} :
  (i.perform p past op).Refused ↔ ¬i.InTurn op
  := by
  constructor
  · rintro ⟨operation, violation, hreply⟩ h
    rw [perform_of_inTurn h] at hreply
    cases hanswer : p.answer past (op.call i.id i.token) with
    | error e => simp [hanswer, Except.mapError] at hreply
    | ok receipt => simp [hanswer, Except.mapError] at hreply
  · intro h
    obtain ⟨violation, hperform⟩ := perform_of_not_inTurn h p past
    rw [hperform]
    use op.name, violation

/-- What is refused makes no call and changes nothing. -/
theorem perform_of_refused {i : Interaction} {op : Operation} {p : Platform} {past : List Call}
    (h : (i.perform p past op).Refused) :
  (i.perform p past op).call = none ∧ (i.perform p past op).interaction = i
  := by
  obtain ⟨violation, hperform⟩ := perform_of_not_inTurn (refused_iff.mp h) p past
  rw [hperform]
  exact ⟨rfl, rfl⟩

/-- What is not refused makes its call. -/
theorem call_of_not_refused {i : Interaction} {op : Operation} {p : Platform} {past : List Call}
    (h : ¬(i.perform p past op).Refused) :
  (i.perform p past op).call = some (op.call i.id i.token)
  := by
  rw [refused_iff, not_not] at h
  rw [perform_of_inTurn h]

/-! ### The one answer -/

/-- An answer that is not refused is the first one, and uses up the callback whatever the
platform says. -/
theorem callbackSent_of_answer {i : Interaction} {op : Operation} {p : Platform} {past : List Call}
    (hop : op.callback?.isSome = true) (h : ¬(i.perform p past op).Refused) :
  i.progress.callbackSent = false
    ∧ (i.perform p past op).interaction.progress.callbackSent = true
  := by
  rw [refused_iff, not_not] at h
  obtain ⟨callback, hcallback⟩ := Option.isSome_iff_exists.mp hop
  rw [perform_of_inTurn h]
  constructor
  · rw [InTurn, hcallback] at h
    apply h.1
  · simp only [advance, hcallback]

/-- What is used up stays so, and no further answer is taken. -/
theorem perform_of_callbackSent {i : Interaction} (h : i.progress.callbackSent = true)
    (op : Operation) (p : Platform) (past : List Call) :
  (i.perform p past op).interaction.progress.callbackSent = true
    ∧ (op.callback?.isSome = true → (i.perform p past op).Refused)
  := by
  constructor
  · by_cases hturn : i.InTurn op
    · rw [perform_of_inTurn hturn, advance]
      cases op.callback? with
      | none => apply h
      | some callback => rfl
    · rw [(perform_of_refused (refused_iff.mpr hturn)).2]
      apply h
  · intro hop
    by_contra hrefused
    rw [(callbackSent_of_answer hop hrefused).1] at h
    contradiction

/-! ### What progress says about calls -/

/-- An operation that answers the event sends its callback. -/
theorem call_of_callback? {op : Operation} {callback : Callback}
    (h : op.callback? = some callback) (id token : String) :
  op.call id token = .sendCallback id token callback
  := by
  cases op with
  | ackWithMessage | ackWithDeferredMessage | ackWithForm | ackWithUpdate | ackWithDeferredUpdate =>
    obtain rfl := Option.some.inj h
    rfl
  | _ => contradiction

/-- An operation that does not answer the event sends no callback. -/
theorem kind_call_of_callback?_eq_none {op : Operation} (h : op.callback? = none)
    (id token : String) :
  (op.call id token).kind ≠ .sendCallback
  := by
  cases op with
  | ackWithMessage | ackWithDeferredMessage | ackWithForm | ackWithUpdate | ackWithDeferredUpdate =>
    contradiction
  | _ => simp [Operation.call, Call.kind]

/-- Exactly the calls that edit or delete the response settle it. -/
theorem settlesResponse_iff (op : Operation) (id token : String) :
  op.settlesResponse = true ↔ (op.call id token).SettlesResponse
  := by
  cases op with
  | _ => simp [Operation.settlesResponse, Operation.call, Call.SettlesResponse, Call.kind]

/-- The callback is the first call, and no other call is one. -/
def CallbackFirst (id token : String) (calls : List Call) : Prop :=
  calls = [] ∨ ∃ callback rest,
    calls = .sendCallback id token callback :: rest ∧ ∀ c ∈ rest, c.kind ≠ .sendCallback

/-- The progress of an interaction is what the calls made for it come to. -/
structure Reflects (i : Interaction) (calls : List Call) : Prop where
  callbackFirst : CallbackFirst i.id i.token calls
  /-- The callback counts as sent once it was tried. -/
  sent : i.progress.callbackSent = true ↔ ∃ c ∈ calls, c.kind = .sendCallback
  deferred : i.progress.deferred = true
    ↔ ∃ callback, .sendCallback i.id i.token callback ∈ calls ∧ callback.isDeferred = true
  settled : i.progress.resultSent = true ↔ ∃ c ∈ calls, c.SettlesResponse

/-- An interaction that has just begun reflects that no call was made. -/
theorem reflects_fresh (id token : String) (origin : Origin) :
  Reflects (.fresh id token origin) []
  where
  callbackFirst := Or.inl rfl
  sent := by simp [fresh, Progress.initial]
  deferred := by simp [fresh, Progress.initial]
  settled := by simp [fresh, Progress.initial]

/-- Before the callback no call was made. -/
theorem Reflects.calls_eq_nil {i : Interaction} {calls : List Call} (h : Reflects i calls)
    (hsent : i.progress.callbackSent = false) :
  calls = []
  := by
  obtain hnil | ⟨callback, rest, rfl, -⟩ := h.callbackFirst
  · apply hnil
  · rw [h.sent.mpr ⟨_, List.mem_cons_self, rfl⟩] at hsent
    contradiction

/-- The first answer makes the only callback. -/
theorem Reflects.answer {i : Interaction} {calls : List Call} (h : Reflects i calls)
    {op : Operation} {callback : Callback} (hop : op.callback? = some callback)
    (hmay : i.MayAnswer callback) :
  Reflects { i with progress := i.advance op } (calls ++ [op.call i.id i.token])
  := by
  obtain rfl := h.calls_eq_nil hmay.1
  have hsettled : i.progress.resultSent = false := by simpa using h.settled
  rw [call_of_callback? hop, advance, hop, List.nil_append]
  constructor
  · right
    use callback, []
    simp
  · simp [Call.kind]
  · simp
  · simp [hsettled, Call.SettlesResponse, Call.kind]

/-- An operation after the answer adds a call that is no callback. -/
theorem Reflects.followUp {i : Interaction} {calls : List Call} (h : Reflects i calls)
    {op : Operation} (hop : op.callback? = none) (hsent : i.progress.callbackSent = true) :
  Reflects { i with progress := i.advance op } (calls ++ [op.call i.id i.token])
  := by
  have hkind := kind_call_of_callback?_eq_none hop i.id i.token
  have hcall : ∀ callback, op.call i.id i.token ≠ .sendCallback i.id i.token callback := by
    intro callback heq
    apply hkind
    rw [heq, Call.kind]
  rw [advance, hop]
  constructor
  · obtain rfl | ⟨callback, rest, rfl, hrest⟩ := h.callbackFirst
    · obtain ⟨c, hc, -⟩ := h.sent.mp hsent
      contradiction
    · right
      use callback, rest ++ [op.call i.id i.token]
      constructor
      · rfl
      · intro c hc
        obtain hc | hc := List.mem_append.mp hc
        · apply hrest c hc
        · rw [List.mem_singleton.mp hc]
          apply hkind
  · simp only [h.sent, List.mem_append, List.mem_singleton, or_and_right, exists_or,
      exists_eq_left, hkind, or_false]
  · simp only [h.deferred, List.mem_append, List.mem_singleton, (hcall _).symm, or_false]
  · simp only [Bool.or_eq_true, h.settled, settlesResponse_iff op i.id i.token, List.mem_append,
      List.mem_singleton, or_and_right, exists_or, exists_eq_left]

/-- Whatever an operation comes to, the progress reflects the calls made. -/
theorem Reflects.perform {i : Interaction} {calls : List Call} (h : Reflects i calls)
    (p : Platform) (past : List Call) (op : Operation) :
  Reflects (i.perform p past op).interaction (calls ++ (i.perform p past op).call.toList)
  := by
  by_cases hturn : i.InTurn op
  · rw [perform_of_inTurn hturn]
    unfold InTurn at hturn
    cases hop : op.callback? with
    | some callback =>
      rw [hop] at hturn
      apply h.answer hop hturn
    | none =>
      rw [hop] at hturn
      apply h.followUp hop hturn
  · obtain ⟨violation, hperform⟩ := perform_of_not_inTurn hturn p past
    rw [hperform, Option.toList_none, List.append_nil]
    apply h

namespace Session

variable (p : Platform) (past : List Call)

/-- Operations change nothing but the progress. -/
theorem interaction_perform (s : Session) (op : Operation) :
  ∃ progress, (s.perform p past op).interaction = { s.interaction with progress := progress }
  := by
  unfold perform next Interaction.perform
  cases s.interaction.violation? op with
  | none => exact ⟨_, rfl⟩
  | some violation => exact ⟨_, rfl⟩

/-- Operations change nothing of an interaction but its progress. -/
theorem interaction_performAll (s : Session) (ops : List Operation) :
  ∃ progress, (s.performAll p past ops).interaction = { s.interaction with progress := progress }
  := by
  induction ops generalizing s with
  | nil => exact ⟨_, rfl⟩
  | cons op ops ih =>
    obtain ⟨progress, hfirst⟩ := interaction_perform p past s op
    obtain ⟨progress', hrest⟩ := ih (s.perform p past op)
    use progress'
    rw [hfirst] at hrest
    apply hrest

/-- After any operations an interaction still reflects the calls that were made. -/
theorem reflects_performAll {s : Session} (h : Reflects s.interaction s.calls)
    (ops : List Operation) :
  Reflects (s.performAll p past ops).interaction (s.performAll p past ops).calls
  := by
  induction ops generalizing s with
  | nil => apply h
  | cons op ops ih => apply ih (h.perform p (past ++ s.calls) op)

end Session

/-- Where a callback can only come first, there is at most one. -/
theorem CallbackFirst.countP_le_one {id token : String} {calls : List Call}
    (h : CallbackFirst id token calls) :
  calls.countP (·.kind = .sendCallback) ≤ 1
  := by
  obtain rfl | ⟨callback, rest, rfl, hrest⟩ := h
  · simp
  · have hzero : rest.countP (·.kind = .sendCallback) = 0 := by
      rw [List.countP_eq_zero]
      simpa using hrest
    rw [List.countP_cons, hzero]
    split_ifs <;> omega

/-- After any operations, whatever the platform answered to their calls: the callback is the
first call and the only one of its kind, and the progress is what the calls come to.  The next
operation is refused exactly if it is out of turn, and then makes no call and leaves the
progress as it is; otherwise it makes its one call.  An answer that is not refused is the first
call and uses up the callback, also when the platform refuses it, and what is used up stays
so. -/
theorem answered_once (id token : String) (origin : Origin) (p : Platform) (past : List Call)
    (ops : List Operation) (op : Operation) :
  let s := (Session.fresh id token origin).performAll p past ops
  let done := s.next p past op
  CallbackFirst id token s.calls
    ∧ s.calls.countP (·.kind = .sendCallback) ≤ 1
    ∧ (done.Refused ↔ ¬s.interaction.InTurn op)
    ∧ (done.Refused →
        done.call = none ∧ done.interaction.progress = s.interaction.progress)
    ∧ (¬done.Refused → done.call = some (op.call id token))
    ∧ (op.callback?.isSome = true → ¬done.Refused →
        s.calls = [] ∧ done.interaction.progress.callbackSent = true)
    ∧ (s.interaction.progress.callbackSent = true →
        done.interaction.progress.callbackSent = true ∧ (op.callback?.isSome = true → done.Refused))
    ∧ (s.interaction.progress.callbackSent = true ↔ ∃ c ∈ s.calls, c.kind = .sendCallback)
    ∧ (s.interaction.progress.deferred = true
        ↔ ∃ callback, .sendCallback id token callback ∈ s.calls ∧ callback.isDeferred = true)
    ∧ (s.interaction.progress.resultSent = true ↔ ∃ c ∈ s.calls, c.SettlesResponse)
  := by
  intro s done
  obtain ⟨progress, hinteraction⟩ :=
    Session.interaction_performAll p past (Session.fresh id token origin) ops
  have hid : s.interaction.id = id := by rw [hinteraction, Session.fresh, fresh]
  have htoken : s.interaction.token = token := by rw [hinteraction, Session.fresh, fresh]
  have hreflects : Reflects s.interaction s.calls :=
    Session.reflects_performAll p past (reflects_fresh id token origin) ops
  refine ⟨?_, ?_, refused_iff, ?_, ?_, ?_, ?_, hreflects.sent, ?_, hreflects.settled⟩
  · rw [← hid, ← htoken]
    apply hreflects.callbackFirst
  · apply hreflects.callbackFirst.countP_le_one
  · intro hrefused
    obtain ⟨hcall, hsame⟩ := perform_of_refused hrefused
    use hcall
    exact congrArg Interaction.progress hsame
  · intro hrefused
    rw [← hid, ← htoken]
    apply call_of_not_refused hrefused
  · intro hop hrefused
    obtain ⟨hsent, hdone⟩ := callbackSent_of_answer hop hrefused
    exact ⟨hreflects.calls_eq_nil hsent, hdone⟩
  · intro hsent
    apply perform_of_callbackSent hsent
  · rw [← hid, ← htoken]
    apply hreflects.deferred

end Interaction

end InteractionRouting
