import InteractionRouting.Envelope
import InteractionRouting.Proofs.Entity.RoundTrip

/-!
# What the platform sends is stable

Envelopes, directories, invokers, messages and events that were read are read again, as they are,
from what they are written as.  Submitted forms, invokers and events are read back whatever they
are; the others if the messages they bring along keep their extra fields apart, and when they were
read their messages do.
-/

namespace InteractionRouting

open Wire Record

/-- A kind of command is read from its name. -/
theorem CommandKind.readsBack (k : CommandKind) :
  CommandKind.naming.codec.ReadsBack k
  := .naming (by cases k <;> rfl)

/-- A kind of component is read from its name. -/
theorem ComponentKind.readsBack (k : ComponentKind) :
  ComponentKind.naming.codec.ReadsBack k
  := .naming (by cases k <;> rfl)

/-- A kind of parameter is read from its name. -/
theorem Parameter.Kind.readsBack (k : Parameter.Kind) :
  Parameter.Kind.naming.codec.ReadsBack k
  := .naming (by cases k <;> rfl)

namespace Supplied

/-- What is supplied with an interaction reads back. -/
theorem restores (s : Supplied) :
  fields.Restores s s
  := Restores.required (.text _) |>.map Supplied.mk
    |>.seq (.required s.kind.readsBack)
    |>.seq (.required (.any _))

/-- A value for a parameter is read from what it is written as. -/
theorem readsBack (s : Supplied) :
  codec.ReadsBack s
  := s.restores.readsBack (by decide)

end Supplied

namespace CommandEnvelope

/-- Every part of a command that was used is read from its own field. -/
theorem restores {e : CommandEnvelope} (h : e.directory.KeepsApart) :
  fields.Restores e e
  := Restores.required (.text _) |>.map CommandEnvelope.mk
    |>.seq (.required (.text _))
    |>.seq (.optional (.option_text _))
    |>.seq (.required (.text _))
    |>.seq (.optional (Invoker.option_readsBack _))
    |>.seq (.defaulted e.kind.readsBack)
    |>.seq (.required (.text _))
    |>.seq (.optional (.option_text _))
    |>.seq (.optional (.option_text _))
    |>.seq (.defaulted (.list fun s _ => s.readsBack))
    |>.seq (.optional (.option_text _))
    |>.seq (.defaulted (Directory.readsBack h))

/-- A command that was used is read from what it is written as, if the messages of its directory
keep their further fields apart. -/
theorem readsBack {e : CommandEnvelope} (h : e.directory.KeepsApart) :
  codec.ReadsBack e
  := (restores h).readsBack (by decide)

/-- The messages of a command that was read keep their further fields apart. -/
theorem yields :
  codec.Yields fun e => e.directory.KeepsApart
  := by
  refine Yields.codec (.seq ?_ Directory.yields_defaulted)
  repeat refine .seq ?_ (.any _)
  apply yields_map
  intros
  assumption

end CommandEnvelope

namespace ComponentEnvelope

theorem restores {e : ComponentEnvelope} (h : e.directory.KeepsApart) :
  fields.Restores e e
  := Restores.required (.text _) |>.map ComponentEnvelope.mk
    |>.seq (.required (.text _))
    |>.seq (.optional (.option_text _))
    |>.seq (.required (.text _))
    |>.seq (.optional (Invoker.option_readsBack _))
    |>.seq (.required (.text _))
    |>.seq (.required e.kind.readsBack)
    |>.seq (.required (.text _))
    |>.seq (.defaulted (.list fun _ _ => .text _))
    |>.seq (.defaulted (Directory.readsBack h))

/-- A component that was used is read from what it is written as, under the same condition. -/
theorem readsBack {e : ComponentEnvelope} (h : e.directory.KeepsApart) :
  codec.ReadsBack e
  := (restores h).readsBack (by decide)

/-- The messages of a component that was read keep their further fields apart. -/
theorem yields :
  codec.Yields fun e => e.directory.KeepsApart
  := by
  refine Yields.codec (.seq ?_ Directory.yields_defaulted)
  repeat refine .seq ?_ (.any _)
  apply yields_map
  intros
  assumption

end ComponentEnvelope

namespace FormEntry

theorem restores (f : FormEntry) :
  fields.Restores f f
  := Restores.required (.text _) |>.map FormEntry.mk
    |>.seq (.required (.text _))

/-- An entry of a form is read from what it is written as. -/
theorem readsBack (f : FormEntry) :
  codec.ReadsBack f
  := f.restores.readsBack (by decide)

end FormEntry

namespace ModalEnvelope

theorem restores (e : ModalEnvelope) :
  fields.Restores e e
  := Restores.required (.text _) |>.map ModalEnvelope.mk
    |>.seq (.required (.text _))
    |>.seq (.optional (.option_text _))
    |>.seq (.required (.text _))
    |>.seq (.optional (Invoker.option_readsBack _))
    |>.seq (.optional (.option_text _))
    |>.seq (.required (.text _))
    |>.seq (.defaulted (.list fun f _ => f.readsBack))

/-- A form that was submitted is read from what it is written as. -/
theorem readsBack (e : ModalEnvelope) :
  codec.ReadsBack e
  := e.restores.readsBack (by decide)

end ModalEnvelope

namespace Event

theorem restores (e : Event) :
  fields.Restores e e
  := Restores.required (.text _) |>.map Event.mk
    |>.seq (.defaulted (.any _))

/-- An event is read from what it is written as. -/
theorem readsBack (e : Event) :
  codec.ReadsBack e
  := e.restores.readsBack (by decide)

end Event

/-- Whatever the platform sends that reads as an envelope, a directory, an invoker, a message or an
event is read again, as the same value, from what the value is written as; and so is every such
value in which messages keep their extra fields apart, whether it was read or not.  A kind of
channel that is not known is the unknown kind.  A message is read from an object, and its extra
fields are the fields of the object besides its own four, as they stand and in their order; it is
written as its own four fields and then its extra fields, so that no name of the object is lost and
none is written twice. -/
theorem inbound_stable :
  CommandEnvelope.codec.Stable ∧ ComponentEnvelope.codec.Stable ∧ ModalEnvelope.codec.Stable
    ∧ Directory.codec.Stable ∧ Invoker.codec.Stable ∧ Message.codec.Stable ∧ Event.codec.Stable
    ∧ (∀ e : CommandEnvelope, e.directory.KeepsApart → CommandEnvelope.codec.ReadsBack e)
    ∧ (∀ e : ComponentEnvelope, e.directory.KeepsApart → ComponentEnvelope.codec.ReadsBack e)
    ∧ (∀ e : ModalEnvelope, ModalEnvelope.codec.ReadsBack e)
    ∧ (∀ d : Directory, d.KeepsApart → Directory.codec.ReadsBack d)
    ∧ (∀ i : Invoker, Invoker.codec.ReadsBack i)
    ∧ (∀ x : Message, x.KeepsApart → Message.codec.ReadsBack x)
    ∧ (∀ e : Event, Event.codec.ReadsBack e)
    ∧ (∀ name, name ∉ ChannelType.naming.names.map Prod.fst → ∀ m : Medium,
        ChannelType.naming.codec.decode m (.string name) = .ok .unknown)
    ∧ (∀ (v : Json) (x : Message), Message.codec.decode .direct v = .ok x →
        let own := ["id", "channelId", "content", "author"]
        ∃ fields known, v = .object fields
          ∧ x.extra = fields.filter (fun f => f.1 ∉ own)
          ∧ Message.codec.encode x = .object (known ++ x.extra)
          ∧ known.map Prod.fst = own
          ∧ (∀ f ∈ fields, f.1 ∈ (known ++ x.extra).map Prod.fst)
          ∧ ((fields.map Prod.fst).Nodup → ((known ++ x.extra).map Prod.fst).Nodup))
  := by
  refine ⟨CommandEnvelope.yields.stable fun e => e.readsBack,
    ComponentEnvelope.yields.stable fun e => e.readsBack,
    Codec.stable_of_readsBack ModalEnvelope.readsBack,
    Directory.yields.stable fun d => d.readsBack,
    Codec.stable_of_readsBack Invoker.readsBack,
    Message.yields.stable fun x => x.readsBack,
    Codec.stable_of_readsBack Event.readsBack,
    fun e => e.readsBack, fun e => e.readsBack, ModalEnvelope.readsBack, fun d => d.readsBack,
    Invoker.readsBack, fun x => x.readsBack, Event.readsBack,
    fun name => ChannelType.decode_of_notMem, ?_⟩
  intro v x hread own
  obtain ⟨fields, hv, hextra⟩ := Message.exists_of_decode hread
  obtain ⟨known, hencode, hknown⟩ := x.exists_encode_eq
  exact ⟨fields, known, hv, hextra, hencode, hknown, fun f => Message.mem_names_of_mem hknown hextra,
    Message.nodup_names hknown hextra⟩

/-- A command with fields that are null, fields that are absent, an invoker among whose fields is
one that nobody reads, and a directory with a channel of an unknown kind and a message with extra
fields around its own. -/
theorem inbound_stable_nested :
  let message := Json.object [("embeds", .array []), ("id", .string "5"), ("author", .null),
    ("channelId", .string "9"), ("tts", .bool true)]
  let channel := Json.object [("kind", .string "Sphere"), ("id", .string "9"),
    ("name", .string "lobby")]
  let invoker := Json.object [("nick", .null), ("pending", .bool true), ("flags", .null),
    ("user", .object [("id", .string "1"), ("username", .string "ferris")])]
  let command := Json.object [("token", .string "t"), ("id", .string "1"),
    ("name", .string "ping"), ("member", invoker), ("guildId", .null), ("channelId", .string "9"),
    ("dataMap", .object [("messages", .object [("5", message)]),
      ("channels", .object [("9", channel)])])]
  ∃ (e : CommandEnvelope) (x : Message),
    CommandEnvelope.codec.decode .direct command = .ok e
      ∧ Message.codec.decode .direct message = .ok x
      ∧ e.member.map (·.member.pending) = some true
      ∧ (e.directory.channels.get? "9").map (·.kind) = some .unknown
      ∧ e.directory.messages.get? "5" = some x
      ∧ x.extra = [("embeds", .array []), ("tts", .bool true)]
      ∧ CommandEnvelope.codec.decode .direct (CommandEnvelope.codec.encode e) = .ok e
      ∧ Message.codec.decode .direct (Message.codec.encode x) = .ok x
  := by
  intro message channel invoker command
  obtain ⟨e, he⟩ : ∃ e, CommandEnvelope.codec.decode .direct command = .ok e := ⟨_, rfl⟩
  obtain ⟨x, hx⟩ : ∃ x, Message.codec.decode .direct message = .ok x := ⟨_, rfl⟩
  obtain ⟨hcommand, -, -, -, -, hmessage, -⟩ := inbound_stable
  have hcommand := hcommand command e he
  have hmessage := hmessage message x hx
  obtain rfl := Except.ok.inj he
  obtain rfl := Except.ok.inj hx
  exact ⟨_, _, rfl, rfl, rfl, rfl, rfl, rfl, hcommand, hmessage⟩

end InteractionRouting
