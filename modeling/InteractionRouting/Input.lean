import InteractionRouting.Argument
import InteractionRouting.Identifier
import InteractionRouting.Interaction

/-!
# Inputs

An interaction as it is handed to a handler: its envelope, together with the target of a
command or with what the identifier of a component or a form says.
-/

namespace InteractionRouting

/-- An interaction whose payload was read. -/
inductive Input where
  | command (envelope : CommandEnvelope) (target : Option Target)
  | component (envelope : ComponentEnvelope) (identifier : Identifier)
  | modal (envelope : ModalEnvelope) (identifier : Identifier)

/-- Why a payload is no input. -/
inductive InputError where
  | payload (mismatch : Wire.Mismatch)
  | target (error : ResolutionError)
  | identifier (error : Identifier.ReadError)

namespace Input

/-- Reads the payload of an interaction. -/
def read (payload : Json) : Origin → Except InputError Input
  | .command => do
    let e ← (CommandEnvelope.codec.decode .direct payload).mapError .payload
    let target ← e.target.mapError .target
    return command e target
  | .component => do
    let e ← (ComponentEnvelope.codec.decode .direct payload).mapError .payload
    let identifier ← (Identifier.read e.customId).mapError .identifier
    return component e identifier
  | .modal => do
    let e ← (ModalEnvelope.codec.decode .direct payload).mapError .payload
    let identifier ← (Identifier.read e.customId).mapError .identifier
    return modal e identifier

/-- The interaction, not answered yet. -/
def interaction : Input → Interaction
  | command e _ => .fresh e.id e.token .command
  | component e _ => .fresh e.id e.token .component
  | modal e _ => .fresh e.id e.token .modal

end Input

end InteractionRouting
