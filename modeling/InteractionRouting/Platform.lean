import InteractionRouting.Json.Reader
import InteractionRouting.Manifest
import InteractionRouting.Reply

/-!
# The platform

The calls that are made to the platform in answer to interactions, and a platform as the
answers it gives.  What a platform answers may depend on every call that was made before.
-/

namespace InteractionRouting

/-- Why the platform refuses a call. -/
inductive PlatformError where
  | notConnected
  | rejected (status : UInt16) (message : String)
  | unknownInteraction
  | serialization (message : String)
  | other (message : String)
deriving DecidableEq

namespace PlatformError

def message : PlatformError → String
  | notConnected => "not connected to the platform"
  | rejected status message => s!"platform error ({status}): {message}"
  | unknownInteraction => "unknown interaction"
  | serialization message => s!"serialization error: {message}"
  | other message => message

/-- The error of a payload that is not JSON. -/
def ofSyntax (e : Json.SyntaxError) : PlatformError := serialization e.message

end PlatformError

/-- A call to the platform.  Each names the interaction by its token. -/
inductive Call where
  | sendCallback (id token : String) (callback : Callback)
  | getResponse (token : String)
  | editResponse (token : String) (draft : Draft)
  | deleteResponse (token : String)
  | createFollowup (token : String) (draft : Draft)
  | getFollowup (token messageId : String)
  | editFollowup (token messageId : String) (draft : Draft)
  | deleteFollowup (token messageId : String)

namespace Call

/-- The kinds of calls. -/
inductive Kind where
  | sendCallback
  | getResponse
  | editResponse
  | deleteResponse
  | createFollowup
  | getFollowup
  | editFollowup
  | deleteFollowup
deriving DecidableEq

/-- The name in reports. -/
def Kind.name : Kind → String
  | sendCallback => "send_callback"
  | getResponse => "get_original_response"
  | editResponse => "edit_original_response"
  | deleteResponse => "delete_original_response"
  | createFollowup => "create_followup"
  | getFollowup => "get_followup"
  | editFollowup => "edit_followup"
  | deleteFollowup => "delete_followup"

def kind : Call → Kind
  | sendCallback .. => .sendCallback
  | getResponse .. => .getResponse
  | editResponse .. => .editResponse
  | deleteResponse .. => .deleteResponse
  | createFollowup .. => .createFollowup
  | getFollowup .. => .getFollowup
  | editFollowup .. => .editFollowup
  | deleteFollowup .. => .deleteFollowup

/-- Whether a call that succeeds is answered with a message. -/
def Kind.givesMessage : Kind → Bool
  | sendCallback | deleteResponse | deleteFollowup => false
  | getResponse | editResponse | createFollowup | getFollowup | editFollowup => true

end Call

/-- What comes back from a call that succeeds. -/
inductive Receipt where
  | done
  | message (m : Message)

/-- A platform, as its answers to a call after the calls made before it. -/
structure Platform where
  /-- Why a call is refused, if it is. -/
  refusal : List Call → Call → Option PlatformError
  /-- The message that answers a call. -/
  message : List Call → Call → Message

/-- The answer to a call. -/
def Platform.answer (p : Platform) (past : List Call) (call : Call) :
    Except PlatformError Receipt :=
  match p.refusal past call with
  | some e => .error e
  | none => .ok (if call.kind.givesMessage then .message (p.message past call) else .done)

/-- The party that registers commands with the platform, as its answer to a manifest after
the manifests registered before it: why it refuses the manifest, if it does. -/
structure Registrar where
  refusal : List Manifest → Manifest → Option PlatformError

end InteractionRouting
