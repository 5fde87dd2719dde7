import InteractionRouting.Envelope
import InteractionRouting.Proofs.Wire.Respelling

/-!
# Spellings of envelopes

Users, members, invokers, roles, channels, given values, directories, form entries and envelopes are
records, whose fields may stand in any order and with others beside them.  A message is not: it
keeps what it does not name, so all its fields stay as they are, but for its author.
-/

namespace InteractionRouting

open Wire Record

def User.shape : Shape := .record fields.names fun _ => .leaf

/-- However a user is spelled, the same user is read, or none is. -/
theorem User.respects :
  codec.Respects shape
  := Respects.codec <| Respects.leaf rfl |>.map User.mk
    |>.seq (.leaf rfl)
    |>.seq (.leaf rfl)
    |>.seq (.leaf rfl)
    |>.seq (.leaf rfl)
    |>.seq (.leaf rfl)

namespace Member

def shape : Shape := .record fields.names fun _ => .leaf

/-- The fields of a member are read alike, as long as nothing is respelled inside of them. -/
theorem respects_fields {inside : String → Shape} (h : ∀ name ∈ fields.names, inside name = .leaf) :
  fields.Respects inside
  := Respects.leaf (h "nick" (by decide)) |>.map Member.mk
    |>.seq (.leaf (h "roles" (by decide)))
    |>.seq (.leaf (h "joinedAt" (by decide)))
    |>.seq (.leaf (h "avatar" (by decide)))
    |>.seq (.leaf (h "permissions" (by decide)))
    |>.seq (.leaf (h "pending" (by decide)))

/-- However a member is spelled, the same member is read, or none is. -/
theorem respects :
  codec.Respects shape
  := Respects.codec (respects_fields fun _ _ => rfl)

end Member

namespace Invoker

/-- The fields of a member have no records inside, and stand beside the user. -/
def shape : Shape :=
  .record (own.names ++ Member.fields.names) fun
    | "user" => User.shape
    | _ => .leaf

/-- An invoker is a member with a user inside, which may be respelled as well. -/
theorem respects :
  codec.Respects shape
  := by
  apply Respects.codecWith
  · exact .field User.respects
  · apply Member.respects_fields
    intro name hname
    split
    · exact absurd hname (by decide)
    · rfl
  · decide

end Invoker

def Role.shape : Shape := .record fields.names fun _ => .leaf

/-- However a role is spelled, the same role is read, or none is. -/
theorem Role.respects :
  codec.Respects shape
  := Respects.codec <| Respects.leaf rfl |>.map Role.mk
    |>.seq (.leaf rfl)
    |>.seq (.leaf rfl)
    |>.seq (.leaf rfl)
    |>.seq (.leaf rfl)
    |>.seq (.leaf rfl)
    |>.seq (.leaf rfl)
    |>.seq (.leaf rfl)

def Channel.shape : Shape := .record fields.names fun _ => .leaf

/-- However a channel is spelled, the same channel is read, or none is. -/
theorem Channel.respects :
  codec.Respects shape
  := Respects.codec <| Respects.leaf rfl |>.map Channel.mk
    |>.seq (.leaf rfl)
    |>.seq (.leaf rfl)
    |>.seq (.leaf rfl)
    |>.seq (.leaf rfl)

namespace Message

/-- The fields of a message stay where they are. -/
def shape : Shape :=
  .entries fun
    | "author" => User.shape
    | _ => .leaf

/-- Of a message the author may be respelled, while its further fields are kept as they stand. -/
theorem respects :
  codec.Respects shape
  := by
  apply Respects.codecWith_ok
  · exact Respects.leaf rfl |>.map Message.mk
      |>.seq (.leaf rfl)
      |>.seq (.leaf rfl)
      |>.seq (.field User.respects.option)
  · intro name hname
    split
    · exact absurd hname (by decide)
    · rfl

end Message

namespace Directory

/-- The keys of the tables are ids. -/
def shape : Shape :=
  .record fields.names fun
    | "users" => .entries fun _ => User.shape
    | "members" => .entries fun _ => Member.shape
    | "roles" => .entries fun _ => Role.shape
    | "channels" => .entries fun _ => Channel.shape
    | "messages" => .entries fun _ => Message.shape
    | _ => .leaf

/-- In a directory the entities of its tables may be respelled, but not the tables. -/
theorem respects :
  codec.Respects shape
  := Respects.codec <| Respects.field User.respects.table |>.map Directory.mk
    |>.seq (.field Member.respects.table)
    |>.seq (.field Role.respects.table)
    |>.seq (.field Channel.respects.table)
    |>.seq (.field Message.respects.table)

end Directory

def Supplied.shape : Shape := .record fields.names fun _ => .leaf

/-- However a value for a parameter is spelled, the same is read, or none is. -/
theorem Supplied.respects :
  codec.Respects shape
  := Respects.codec <| Respects.leaf rfl |>.map Supplied.mk
    |>.seq (.leaf rfl)
    |>.seq (.leaf rfl)

namespace CommandEnvelope

def shape : Shape :=
  .record fields.names fun
    | "member" => Invoker.shape
    | "options" => .list Supplied.shape
    | "dataMap" => Directory.shape
    | _ => .leaf

/-- An envelope of a command may be respelled, with its invoker, its values and its directory. -/
theorem respects :
  codec.Respects shape
  := Respects.codec <| Respects.leaf rfl |>.map CommandEnvelope.mk
    |>.seq (.leaf rfl)
    |>.seq (.leaf rfl)
    |>.seq (.leaf rfl)
    |>.seq (.field Invoker.respects.option)
    |>.seq (.leaf rfl)
    |>.seq (.leaf rfl)
    |>.seq (.leaf rfl)
    |>.seq (.leaf rfl)
    |>.seq (.field Supplied.respects.list)
    |>.seq (.leaf rfl)
    |>.seq (.field Directory.respects)

end CommandEnvelope

namespace ComponentEnvelope

def shape : Shape :=
  .record fields.names fun
    | "member" => Invoker.shape
    | "dataMap" => Directory.shape
    | _ => .leaf

/-- An envelope of a component may be respelled, with its invoker and its directory. -/
theorem respects :
  codec.Respects shape
  := Respects.codec <| Respects.leaf rfl |>.map ComponentEnvelope.mk
    |>.seq (.leaf rfl)
    |>.seq (.leaf rfl)
    |>.seq (.leaf rfl)
    |>.seq (.field Invoker.respects.option)
    |>.seq (.leaf rfl)
    |>.seq (.leaf rfl)
    |>.seq (.leaf rfl)
    |>.seq (.leaf rfl)
    |>.seq (.field Directory.respects)

end ComponentEnvelope

def FormEntry.shape : Shape := .record fields.names fun _ => .leaf

/-- However an entry of a form is spelled, the same is read, or none is. -/
theorem FormEntry.respects :
  codec.Respects shape
  := Respects.codec <| Respects.leaf rfl |>.map FormEntry.mk
    |>.seq (.leaf rfl)

namespace ModalEnvelope

def shape : Shape :=
  .record fields.names fun
    | "member" => Invoker.shape
    | "values" => .list FormEntry.shape
    | _ => .leaf

/-- An envelope of a form may be respelled, with its invoker and its entries. -/
theorem respects :
  codec.Respects shape
  := Respects.codec <| Respects.leaf rfl |>.map ModalEnvelope.mk
    |>.seq (.leaf rfl)
    |>.seq (.leaf rfl)
    |>.seq (.leaf rfl)
    |>.seq (.field Invoker.respects.option)
    |>.seq (.leaf rfl)
    |>.seq (.leaf rfl)
    |>.seq (.field FormEntry.respects.list)

end ModalEnvelope

end InteractionRouting
