import InteractionRouting.Proofs.Wire.RecordRoundTrip
import InteractionRouting.Reply
import Mathlib.Data.List.Permutation

/-!
# Callbacks that are read again

A callback is read back from its kind and its data, in either order, whatever is in it: what a
draft or an input leaves out is what stands for an absent field.  Only mentions that are set to
null are not told from mentions that are not set.  So callbacks are told apart by what they are
written as.
-/

namespace InteractionRouting

open Wire Record

/-- A style of input is read from its name. -/
theorem InputStyle.readsBack (s : InputStyle) :
  InputStyle.naming.codec.ReadsBack s
  := .naming (by cases s <;> rfl)

namespace Draft

/-- Every part of a draft is read from its own field, unless what it mentions is written as null. -/
theorem restores {d : Draft} (h : d.allowedMentions ≠ some .null) :
  fields.Restores d d
  := Restores.elided (.option_text _) |>.map Draft.mk
    |>.seq (.elidedList (.list fun _ _ => .any _))
    |>.seq (.elidedList (.list fun _ _ => .any _))
    |>.seq (.elided (.option (fun _ _ => .any _) fun _ hv hnull => h (hnull ▸ hv)))
    |>.seq (.defaulted (.flag _))

/-- A draft is read from what it is written as, unless what it mentions is written as null. -/
theorem readsBack {d : Draft} (h : d.allowedMentions ≠ some .null) :
  codec.ReadsBack d
  := (restores h).readsBack (by decide)

end Draft

namespace FormInput

theorem restores (i : FormInput) :
  fields.Restores i i
  := Restores.required (.text _) |>.map FormInput.mk
    |>.seq (.required (.text _))
    |>.seq (.defaulted i.style.readsBack)
    |>.seq (.defaulted (.flag _))
    |>.seq (.elided (.option_text _))
    |>.seq (.elided (.option_uint16 _))
    |>.seq (.elided (.option_uint16 _))
    |>.seq (.elided (.option_text _))

/-- An input of a form is read from what it is written as. -/
theorem readsBack (i : FormInput) :
  codec.ReadsBack i
  := i.restores.readsBack (by decide)

end FormInput

namespace Form

theorem restores (f : Form) :
  fields.Restores f f
  := Restores.required (.text _) |>.map Form.mk
    |>.seq (.required (.text _))
    |>.seq (.required (.list fun i _ => i.readsBack))

/-- A form is read from what it is written as. -/
theorem readsBack (f : Form) :
  codec.ReadsBack f
  := f.restores.readsBack (by decide)

end Form

namespace Callback

theorem Kind.readsBack (k : Kind) :
  Kind.naming.codec.ReadsBack k
  := .naming (by cases k <;> rfl)

/-- A kind of callback is read from its name. -/
theorem Kind.decode_name (k : Kind) (m : Medium) :
  Kind.naming.decode m (.string k.name) = .ok k
  := k.readsBack m

/-- The draft in a callback, if there is one. -/
def draft? : Callback → Option Draft
  | message d => some d
  | deferredMessage d => d
  | update d => some d
  | deferredUpdate => none
  | form _ => none

/-- The mentions of the draft, if they are set, are not set to null. -/
def KeepsMentions (c : Callback) : Prop := ∀ d ∈ c.draft?, d.allowedMentions ≠ some .null

variable {c c' : Callback}

/-- The data of a callback are read as the callback, given its kind. -/
theorem decodeData_of_data (h : c.KeepsMentions) {v : Json} (hdata : c.data = some v)
    (m : Medium) :
  decodeData m v c.kind = .ok c
  := by
  cases c with
  | message d =>
    obtain rfl := Option.some.inj hdata
    rw [kind, decodeData, Draft.readsBack (h d rfl) m]
    rfl
  | deferredMessage d =>
    obtain rfl := Option.some.inj hdata
    have hback : Draft.codec.option.ReadsBack d :=
      option_readsBack fun d hd => Draft.readsBack (h d hd)
    rw [kind, decodeData, hback m]
    rfl
  | update d =>
    obtain rfl := Option.some.inj hdata
    rw [kind, decodeData, Draft.readsBack (h d rfl) m]
    rfl
  | deferredUpdate => contradiction
  | form f =>
    obtain rfl := Option.some.inj hdata
    rw [kind, decodeData, f.readsBack m]
    rfl

/-- The only callback without data is the one that puts off an update. -/
theorem withoutData_of_data (hdata : c.data = none) :
  withoutData c.kind = .ok c
  := by
  cases c with
  | deferredUpdate => rfl
  | message | deferredMessage | update | form => contradiction

/-- A callback without data is read from its kind alone. -/
theorem decodeFields_kind (m : Medium) :
  decodeFields m [("kind", .string c.kind.name)] = withoutData c.kind
  := by
  have hfields : decodeFields m [("kind", .string c.kind.name)]
      = Kind.naming.decode m (.string c.kind.name) >>= withoutData := rfl
  rw [hfields, Kind.decode_name]
  rfl

/-- A callback with data is read from its kind and the data. -/
theorem decodeFields_kind_data (m : Medium) (v : Json) :
  decodeFields m [("kind", .string c.kind.name), ("data", v)] = decodeData m v c.kind
  := by
  have hfields : decodeFields m [("kind", .string c.kind.name), ("data", v)]
      = Kind.naming.decode m (.string c.kind.name) >>= decodeData m v := rfl
  rw [hfields, Kind.decode_name]
  rfl

/-- Data that stand before the kind are set aside. -/
theorem decodeFields_data_kind (m : Medium) (v : Json) :
  decodeFields m [("data", v), ("kind", .string c.kind.name)] = decodeData .buffered v c.kind
  := by
  have hfields : decodeFields m [("data", v), ("kind", .string c.kind.name)]
      = Kind.naming.decode m (.string c.kind.name) >>= decodeData .buffered v := rfl
  rw [hfields, Kind.decode_name]
  rfl

/-- A callback is read from its kind and its data in any order. -/
theorem decode_of_perm (h : c.KeepsMentions) (m : Medium) {fields : List (String × Json)}
    (hfields : codec.encode c = .object fields) {fields' : List (String × Json)}
    (hperm : fields'.Perm fields) :
  codec.decode m (.object fields') = .ok c
  := by
  have hencode : codec.encode c
      = .object (("kind", .string c.kind.name) :: c.data.toList.map fun v => ("data", v)) := rfl
  rw [hencode, Json.object.injEq] at hfields
  have hdecode : codec.decode m (.object fields') = decodeFields m fields' := rfl
  rw [← hfields] at hperm
  rw [hdecode]
  cases hdata : c.data with
  | none =>
    rw [hdata, Option.toList_none, List.map_nil, List.perm_singleton] at hperm
    rw [hperm, decodeFields_kind, withoutData_of_data hdata]
  | some v =>
    rw [hdata, Option.toList_some, List.map_singleton, List.perm_pair] at hperm
    obtain hsame | hswapped := hperm
    · rw [hsame, decodeFields_kind_data, decodeData_of_data h hdata]
    · rw [hswapped, decodeFields_data_kind, decodeData_of_data h hdata]

/-- A callback is read from what it is written as, if its draft is. -/
theorem readsBack (h : c.KeepsMentions) :
  codec.ReadsBack c
  := fun m => decode_of_perm h m rfl (List.Perm.refl _)

/-- Every callback is read again from what it is written as, its kind and its data in either
order, unless it has mentions that are set to null.  So two such callbacks that differ are written
differently; and whatever the draft, an answer that is put off with it, one that is put off
without a draft, and an update that is put off are all written differently. -/
theorem outbound_reads_back :
  (∀ c : Callback, c.KeepsMentions →
      codec.decode .direct (codec.encode c) = .ok c
        ∧ ∃ fields, codec.encode c = .object fields ∧ ∀ fields', fields'.Perm fields →
            codec.decode .direct (.object fields') = .ok c)
    ∧ (∀ c c' : Callback, c.KeepsMentions → c'.KeepsMentions → c ≠ c' →
        codec.encode c ≠ codec.encode c')
    ∧ ∀ d : Draft,
        codec.encode (deferredMessage none) ≠ codec.encode (deferredMessage (some d))
          ∧ codec.encode (deferredMessage none) ≠ codec.encode deferredUpdate
          ∧ codec.encode (deferredMessage (some d)) ≠ codec.encode deferredUpdate
  := by
  refine ⟨?again, ?apart, ?putOff⟩
  case again =>
    intro c h
    exact ⟨readsBack h .direct, _, rfl, fun fields' => decode_of_perm h .direct rfl⟩
  case apart =>
    intro c c' h h' hne hencode
    exact hne ((readsBack h).eq_of_encode_eq (readsBack h') hencode)
  case putOff =>
    intro d
    refine ⟨nofun, fun heq => ?_, fun heq => ?_⟩
    all_goals
      -- there are two fields on the left and one on the right
      have hlength : 2 = 1 := congrArg (·.fields.length) heq
      contradiction

/-- A form whose input leaves some of its fields out, with its data before its kind, and a draft
that leaves out all but one. -/
theorem outbound_reads_back_swapped :
  let input : FormInput := ⟨"reason", "Reason", .paragraph, true, none, some 3, none, some ""⟩
  let opened := form ⟨"Report", "0:report", [input]⟩
  let deferred := deferredMessage (some .blank)
  opened.KeepsMentions ∧ deferred.KeepsMentions
    ∧ (∃ data, codec.encode opened = .object [("kind", .string "Modal"), ("data", data)]
        ∧ codec.decode .direct (.object [("data", data), ("kind", .string "Modal")]) = .ok opened)
    ∧ codec.decode .direct (codec.encode deferred) = .ok deferred
    ∧ codec.encode opened ≠ codec.encode deferred
  := by
  intro input opened deferred
  have hopened : opened.KeepsMentions := by
    rintro d ⟨⟩
  have hdeferred : deferred.KeepsMentions := by
    rintro d ⟨⟩ ⟨⟩
  obtain ⟨hagain, hapart, -⟩ := outbound_reads_back
  refine ⟨hopened, hdeferred, ⟨_, rfl, ?swapped⟩, (hagain deferred hdeferred).1,
    hapart opened deferred hopened hdeferred nofun⟩
  case swapped =>
    obtain ⟨fields, hencode, hperm⟩ := (hagain opened hopened).2
    obtain rfl := Json.object.inj hencode
    exact hperm _ (List.Perm.swap _ _ _)

end Callback

end InteractionRouting
