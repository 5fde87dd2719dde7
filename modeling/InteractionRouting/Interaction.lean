import InteractionRouting.Platform
import InteractionRouting.Text.Shown

/-!
# Interactions

A live interaction is answered once, with a callback.  After that the response it opened can
be fetched, edited and deleted, and messages can follow.  An operation out of turn is
refused before the platform is called; every other operation makes exactly one call.
-/

namespace InteractionRouting

/-- What an interaction came from. -/
inductive Origin where
  | command
  | component
  | modal
deriving DecidableEq

def Origin.name : Origin → String
  | command => "Command"
  | component => "Component"
  | modal => "ModalSubmit"

/-- How far the answer to an interaction has come. -/
structure Progress where
  /-- The callback was sent, or was tried to be sent. -/
  callbackSent : Bool
  /-- The callback put the answer off. -/
  deferred : Bool
  /-- The response was edited or deleted since. -/
  resultSent : Bool
deriving DecidableEq

namespace Progress

/-- Nothing was answered yet. -/
def initial : Progress := ⟨false, false, false⟩

def describe (p : Progress) : String :=
  Text.shown "AckState" [("has_sent_callback", toString p.callbackSent),
    ("is_response_deferred", toString p.deferred),
    ("is_deferred_response_sent", toString p.resultSent)]

end Progress

/-- What can be done with an interaction. -/
inductive Operation where
  | ackWithMessage (draft : Draft)
  | ackWithDeferredMessage (draft : Option Draft)
  | ackWithForm (form : Form)
  | ackWithUpdate (draft : Draft)
  | ackWithDeferredUpdate
  | getResponse
  | editResponse (draft : Draft)
  | deleteResponse
  | createFollowup (draft : Draft)
  | getFollowup (messageId : String)
  | editFollowup (messageId : String) (draft : Draft)
  | deleteFollowup (messageId : String)

namespace Operation

/-- The name of an operation in messages. -/
def name : Operation → String
  | ackWithMessage _ => "ack_with_message"
  | ackWithDeferredMessage _ => "ack_with_deferred_message"
  | ackWithForm _ => "ack_with_modal"
  | ackWithUpdate _ => "ack_with_update_message"
  | ackWithDeferredUpdate => "ack_with_deferred_update_message"
  | getResponse => "get_original_response"
  | editResponse _ => "edit_original_response"
  | deleteResponse => "delete_original_response"
  | createFollowup _ => "create_followup"
  | getFollowup _ => "get_followup"
  | editFollowup _ _ => "edit_followup"
  | deleteFollowup _ => "delete_followup"

/-- The callback an operation sends, if it is one that answers first. -/
def callback? : Operation → Option Callback
  | ackWithMessage d => some (.message d)
  | ackWithDeferredMessage d => some (.deferredMessage d)
  | ackWithForm f => some (.form f)
  | ackWithUpdate d => some (.update d)
  | ackWithDeferredUpdate => some .deferredUpdate
  | getResponse | editResponse _ | deleteResponse | createFollowup _ | getFollowup _
  | editFollowup _ _ | deleteFollowup _ => none

/-- Whether an operation settles the first response. -/
def settlesResponse : Operation → Bool
  | editResponse _ | deleteResponse => true
  | ackWithMessage _ | ackWithDeferredMessage _ | ackWithForm _ | ackWithUpdate _
  | ackWithDeferredUpdate | getResponse | createFollowup _ | getFollowup _ | editFollowup _ _
  | deleteFollowup _ => false

/-- Whether an operation updates the message that a component or a form belongs to. -/
def updatesMessage : Operation → Bool
  | ackWithUpdate _ | ackWithDeferredUpdate => true
  | ackWithMessage _ | ackWithDeferredMessage _ | ackWithForm _ | getResponse | editResponse _
  | deleteResponse | createFollowup _ | getFollowup _ | editFollowup _ _
  | deleteFollowup _ => false

/-- Whether an interaction of an origin has an operation at all: there is no message to
update for a command. -/
def isOffered (op : Operation) (origin : Origin) : Bool :=
  !(op.updatesMessage && origin = .command)

/-- The platform call an operation makes for the interaction of an id and a token. -/
def call (id token : String) : Operation → Call
  | ackWithMessage d => .sendCallback id token (.message d)
  | ackWithDeferredMessage d => .sendCallback id token (.deferredMessage d)
  | ackWithForm f => .sendCallback id token (.form f)
  | ackWithUpdate d => .sendCallback id token (.update d)
  | ackWithDeferredUpdate => .sendCallback id token .deferredUpdate
  | getResponse => .getResponse token
  | editResponse d => .editResponse token d
  | deleteResponse => .deleteResponse token
  | createFollowup d => .createFollowup token d
  | getFollowup m => .getFollowup token m
  | editFollowup m d => .editFollowup token m d
  | deleteFollowup m => .deleteFollowup token m

end Operation

/-- Why an operation is out of turn. -/
inductive Violation where
  /-- The callback was sent before. -/
  | alreadySent
  /-- The callback has to be sent first. -/
  | notSent
  /-- A form cannot be answered with a form. -/
  | formForForm
deriving DecidableEq

/-- The wording of a violation. -/
def Violation.reason : Violation → String
  | alreadySent => "callback already sent"
  | notSent => "initial callback not sent yet"
  | formForForm => "modal submissions cannot be answered with a modal"

/-- Why an operation failed. -/
inductive InteractionError where
  /-- The operation was out of turn; the platform was not called. -/
  | protocol (operation : String) (violation : Violation)
  /-- The platform refused the call. -/
  | platform (error : PlatformError)
deriving DecidableEq

def InteractionError.message : InteractionError → String
  | protocol operation violation => s!"protocol violation in {operation}: {violation.reason}"
  | platform error => error.message

/-- What an operation comes to. -/
abbrev Reply := Except InteractionError Receipt

/-- A live interaction. -/
structure Interaction where
  id : String
  token : String
  origin : Origin
  progress : Progress

namespace Interaction

/-- An interaction that was not answered yet. -/
def fresh (id token : String) (origin : Origin) : Interaction := ⟨id, token, origin, .initial⟩

/-- Why an operation is out of turn, if it is. -/
def violation? (i : Interaction) (op : Operation) : Option Violation :=
  match op.callback? with
  | some callback =>
    if callback.kind = .form ∧ i.origin = .modal then some .formForForm
    else if i.progress.callbackSent then some .alreadySent
    else none
  | none => if i.progress.callbackSent then none else some .notSent

/-- The progress after an operation that was in turn, whatever the platform answers. -/
def advance (i : Interaction) (op : Operation) : Progress :=
  match op.callback? with
  | some callback => { i.progress with callbackSent := true, deferred := callback.isDeferred }
  | none => { i.progress with resultSent := i.progress.resultSent || op.settlesResponse }

/-- An operation that was carried out. -/
structure Performed where
  interaction : Interaction
  reply : Reply
  /-- The platform call that was made, if one was made. -/
  call : Option Call

/-- Carries out an operation after the platform calls made before. -/
def perform (p : Platform) (past : List Call) (i : Interaction) (op : Operation) : Performed :=
  match i.violation? op with
  | some v => ⟨i, .error (.protocol op.name v), none⟩
  | none =>
    let call := op.call i.id i.token
    ⟨{ i with progress := i.advance op }, (p.answer past call).mapError .platform, some call⟩

def describe (i : Interaction) : String :=
  Text.shownInPart "Interaction" [("id", Text.quote i.id), ("origin", i.origin.name),
    ("state", i.progress.describe)]

end Interaction

end InteractionRouting
