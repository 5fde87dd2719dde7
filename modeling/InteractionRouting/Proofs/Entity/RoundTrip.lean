import InteractionRouting.Entity
import InteractionRouting.Proofs.Wire.RecordRoundTrip

/-!
# Entities that are read again

Users, members, roles and channels are read back whatever they are, also a member whose fields
stand beside its user.  A message is read back if none of its extra fields has a name that the
message reads itself.  A message that was read is of that sort: its extra fields are the fields of
its object of other names, as they stood there.
-/

namespace InteractionRouting

open Wire Record
open Codec (ReadsBack)

/-- A kind of channel is read from its name. -/
theorem ChannelType.readsBack (t : ChannelType) :
  ChannelType.naming.codec.ReadsBack t
  := .naming (by cases t <;> rfl)

/-- Every name but those of the known kinds is read as the unknown kind. -/
theorem ChannelType.decode_of_notMem {s : String}
    (h : s ∉ ChannelType.naming.names.map Prod.fst) (m : Medium) :
  ChannelType.naming.codec.decode m (.string s) = .ok .unknown
  := by
  have hlookup : ChannelType.naming.names.lookup s = none :=
    lookup_eq_none_of_notMem fun f hf heq => h (heq ▸ List.mem_map_of_mem hf)
  have hdecode : ChannelType.naming.codec.decode m (.string s) = ChannelType.naming.value s := rfl
  rw [hdecode, Naming.value, hlookup]
  rfl

namespace User

/-- Every part of a user is read from its own field. -/
theorem restores (u : User) :
  fields.Restores u u
  := Restores.required (.text _) |>.map User.mk
    |>.seq (.required (.text _))
    |>.seq (.optional (.option_text _))
    |>.seq (.optional (.option_text _))
    |>.seq (.optional (.option_text _))
    |>.seq (.defaulted (.flag _))

/-- A user is read from what it is written as. -/
theorem readsBack (u : User) :
  codec.ReadsBack u
  := u.restores.readsBack (by decide)

end User

namespace Member

theorem restores (u : Member) :
  fields.Restores u u
  := Restores.optional (.option_text _) |>.map Member.mk
    |>.seq (.defaulted (.list fun _ _ => .text _))
    |>.seq (.optional (.option_text _))
    |>.seq (.optional (.option_text _))
    |>.seq (.optional (.option_text _))
    |>.seq (.defaulted (.flag _))

/-- A member is read from what it is written as. -/
theorem readsBack (u : Member) :
  codec.ReadsBack u
  := u.restores.readsBack (by decide)

end Member

namespace Invoker

/-- No field of a member has the name under which the user stands. -/
theorem apart (i : Invoker) :
  ∀ f ∈ Member.fields.write i.member, f.1 ∉ own.names
  := by
  have hnames : ∀ name ∈ Member.fields.names, name ∉ own.names := by decide
  intro f hf
  apply hnames f.1 (i.member.restores.written f hf)

/-- Who used something is read from what it is written as. -/
theorem readsBack (i : Invoker) :
  codec.ReadsBack i
  := by
  apply Restores.readsBack_with (a := i.user) (b := i.member)
  · exact .required i.user.readsBack
  · decide
  · exact i.apart
  · exact i.member.restores.decodeFields_write (by decide) .buffered
  · rfl

/-- So is who used something where nobody may have. -/
theorem option_readsBack (o : Option Invoker) :
  codec.option.ReadsBack o
  := .option (fun i _ => i.readsBack) fun _ _ => nofun

end Invoker

namespace Role

theorem restores (r : Role) :
  fields.Restores r r
  := Restores.required (.text _) |>.map Role.mk
    |>.seq (.required (.text _))
    |>.seq (.defaulted (.uint32 _))
    |>.seq (.defaulted (.flag _))
    |>.seq (.defaulted (.flag _))
    |>.seq (.defaulted (.flag _))
    |>.seq (.defaulted (.int64 _))
    |>.seq (.defaulted (.text _))

/-- A role is read from what it is written as. -/
theorem readsBack (r : Role) :
  codec.ReadsBack r
  := r.restores.readsBack (by decide)

end Role

namespace Channel

theorem restores (c : Channel) :
  fields.Restores c c
  := Restores.required (.text _) |>.map Channel.mk
    |>.seq (.required (.text _))
    |>.seq (.required c.kind.readsBack)
    |>.seq (.optional (.option_text _))
    |>.seq (.optional (.option_text _))

/-- A channel is read from what it is written as. -/
theorem readsBack (c : Channel) :
  codec.ReadsBack c
  := c.restores.readsBack (by decide)

end Channel

namespace Message

/-- No extra field of a message has a name that the message reads itself. -/
def KeepsApart (x : Message) : Prop := ∀ f ∈ x.extra, f.1 ∉ own.names

/-- Every part of a message that has a field of its own is read from that. -/
theorem restores (x : Message) :
  own.Restores x (Message.mk x.id x.channelId x.content x.author)
  := Restores.required (.text _) |>.map Message.mk
    |>.seq (.required (.text _))
    |>.seq (.defaulted (.text _))
    |>.seq (.optional (option_readsBack fun u _ => u.readsBack))

/-- A message that keeps its further fields apart is read from what it is written as. -/
theorem readsBack {x : Message} (h : x.KeepsApart) :
  codec.ReadsBack x
  := x.restores.readsBack_with (by decide) h rfl rfl

/-- What a message reads itself says nothing of its extra fields. -/
theorem yields_own :
  own.Yields fun build => ∀ extra, (build extra).extra = extra
  := by
  refine .seq (.seq (.seq (yields_map ?_) (.any _)) (.any _)) (.any _)
  intros
  rfl

/-- A message is read from an object, and its extra fields are those of the object that it does
not read itself. -/
theorem exists_of_decode {m : Medium} {v : Json} {x : Message} (h : codec.decode m v = .ok x) :
  ∃ fields, v = .object fields ∧ x.extra = fields.filter fun f => f.1 ∉ own.names
  := by
  obtain ⟨fields, build, extra, hv, hown, hextra, hx⟩ := exists_of_decode_codecWith h
  use fields, hv
  rw [← hx, yields_own m _ build (eq_ok_of_mapError_eq_ok hown), ← Except.ok.inj hextra, others]
  apply List.filter_congr
  simp

/-- A message that was read keeps its further fields apart. -/
theorem yields :
  codec.Yields KeepsApart
  := by
  intro m v x h
  obtain ⟨fields, -, hextra⟩ := exists_of_decode h
  intro f hf
  rw [hextra, List.mem_filter] at hf
  exact of_decide_eq_true hf.2

/-- A message is written as its own fields and then its extra fields. -/
theorem exists_encode_eq (x : Message) :
  ∃ known, codec.encode x = .object (known ++ x.extra) ∧ known.map Prod.fst = own.names
  := ⟨own.write x, rfl, rfl⟩

section

variable {fields known extra : List (String × Json)} (hknown : known.map Prod.fst = own.names)
  (hextra : extra = fields.filter fun f => f.1 ∉ own.names)
include hknown hextra

/-- No name of the object that a message was read from is lost when the message is written. -/
theorem mem_names_of_mem {f : String × Json} (hf : f ∈ fields) :
  f.1 ∈ (known ++ extra).map Prod.fst
  := by
  rw [List.map_append, List.mem_append, hknown]
  by_cases hown : f.1 ∈ own.names
  · exact .inl hown
  · right
    apply List.mem_map_of_mem
    rw [hextra, List.mem_filter]
    exact ⟨hf, decide_eq_true hown⟩

/-- No name is written twice if none stood twice in the object. -/
theorem nodup_names (hfields : (fields.map Prod.fst).Nodup) :
  ((known ++ extra).map Prod.fst).Nodup
  := by
  rw [List.map_append, hknown, hextra, List.nodup_append']
  refine ⟨by decide, (List.filter_sublist.map Prod.fst).nodup hfields, ?_⟩
  intro name hown hmem
  obtain ⟨f, hf, rfl⟩ := List.mem_map.mp hmem
  rw [List.mem_filter] at hf
  exact of_decide_eq_true hf.2 hown

end

end Message

namespace Directory

/-- No extra field of a message has a name that the message reads itself. -/
def KeepsApart (d : Directory) : Prop := ∀ e ∈ d.messages.entries, e.2.KeepsApart

theorem restores {d : Directory} (h : d.KeepsApart) :
  fields.Restores d d
  := Restores.defaulted (.table fun _ _ => User.readsBack _) |>.map Directory.mk
    |>.seq (.defaulted (.table fun _ _ => Member.readsBack _))
    |>.seq (.defaulted (.table fun _ _ => Role.readsBack _))
    |>.seq (.defaulted (.table fun _ _ => Channel.readsBack _))
    |>.seq (.defaulted (.table fun e he => Message.readsBack (h e he)))

/-- A directory of such messages is read from what it is written as. -/
theorem readsBack {d : Directory} (h : d.KeepsApart) :
  codec.ReadsBack d
  := (restores h).readsBack (by decide)

/-- The messages of a directory that was read keep their further fields apart. -/
theorem yields :
  codec.Yields KeepsApart
  := by
  refine Yields.codec (.seq (.seq (.seq (.seq (yields_map ?_) (.any _)) (.any _)) (.any _))
    (yields_field Message.yields.table ?_))
  · intro users members _ roles _ channels _ messages h
    apply h
  · rintro t ⟨⟩ e ⟨⟩

/-- Where there is no directory there are no messages. -/
theorem yields_defaulted {σ : Type} {name : String} {get : σ → Directory} :
  (defaulted name codec .empty get).Yields KeepsApart
  := by
  apply yields_field yields
  rintro d ⟨⟩ e ⟨⟩

end Directory

end InteractionRouting
