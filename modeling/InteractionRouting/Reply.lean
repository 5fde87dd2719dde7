import InteractionRouting.Entity

/-!
# Replies

What is sent to the platform in answer to an interaction: drafts of messages, forms to be
filled in, and the callback that answers first.
-/

namespace InteractionRouting

open Wire Record

/-- A message to be sent.  What goes beyond its text is passed on as it stands. -/
structure Draft where
  content : Option String
  embeds : List Json
  components : List Json
  allowedMentions : Option Json
  /-- Only the user who started the interaction sees the message. -/
  ephemeral : Bool

namespace Draft

def fields : Record Draft Draft :=
  Draft.mk <$> elided "content" .text content
    <*> elidedList "embeds" .any embeds
    <*> elidedList "components" .any components
    <*> elided "allowedMentions" .any allowedMentions
    <*> defaulted "ephemeral" .flag false ephemeral

def codec : Codec Draft := fields.codec "MessageFields"

/-- A draft without anything. -/
def blank : Draft := ⟨none, [], [], none, false⟩

/-- A draft of a text. -/
def ofText (s : String) : Draft := { blank with content := some s }

def hide (d : Draft) : Draft := { d with ephemeral := true }

def addEmbed (d : Draft) (v : Json) : Draft := { d with embeds := d.embeds ++ [v] }

def addComponents (d : Draft) (row : Json) : Draft :=
  { d with components := d.components ++ [row] }

end Draft

/-- How much can be entered in an input. -/
inductive InputStyle where
  | short
  | paragraph
deriving DecidableEq

namespace InputStyle

def name : InputStyle → String
  | short => "Short"
  | paragraph => "Paragraph"

def naming : Naming InputStyle where
  names := [short, paragraph].map fun s => (s.name, s)
  fallback := none
  name := name

end InputStyle

/-- An input of a form. -/
structure FormInput where
  customId : String
  label : String
  style : InputStyle
  required : Bool
  placeholder : Option String
  minLength : Option UInt16
  maxLength : Option UInt16
  value : Option String

namespace FormInput

def fields : Record FormInput FormInput :=
  FormInput.mk <$> Record.required "customId" .text customId
    <*> Record.required "label" .text label
    <*> defaulted "style" InputStyle.naming.codec .short style
    <*> defaulted "required" .flag false required
    <*> elided "placeholder" .text placeholder
    <*> elided "minLength" .uint16 minLength
    <*> elided "maxLength" .uint16 maxLength
    <*> elided "value" .text value

def codec : Codec FormInput := fields.codec "TextInput"

/-- A short input that may be left empty. -/
def plain (customId label : String) : FormInput where
  customId := customId
  label := label
  style := .short
  required := false
  placeholder := none
  minLength := none
  maxLength := none
  value := none

end FormInput

/-- A form to be filled in. -/
structure Form where
  title : String
  customId : String
  inputs : List FormInput

namespace Form

def fields : Record Form Form :=
  Form.mk <$> required "title" .text title
    <*> required "customId" .text customId
    <*> required "inputs" (.list FormInput.codec) inputs

def codec : Codec Form := fields.codec "ModalFields"

def addInput (f : Form) (input : FormInput) : Form := { f with inputs := f.inputs ++ [input] }

end Form

/-- The first answer to an interaction. -/
inductive Callback where
  /-- A message. -/
  | message (draft : Draft)
  /-- A message that will follow. -/
  | deferredMessage (draft : Option Draft)
  /-- A replacement of the message the component belongs to. -/
  | update (draft : Draft)
  /-- A replacement that will follow. -/
  | deferredUpdate
  /-- A form to fill in. -/
  | form (form : Form)

namespace Callback

/-- The kinds of callbacks. -/
inductive Kind where
  | message
  | deferredMessage
  | update
  | deferredUpdate
  | form
deriving DecidableEq

namespace Kind

/-- The name on the wire. -/
def name : Kind → String
  | message => "Message"
  | deferredMessage => "DeferredMessage"
  | update => "UpdateMessage"
  | deferredUpdate => "DeferredUpdateMessage"
  | form => "Modal"

/-- The name in logs. -/
def label : Kind → String
  | message => "message"
  | deferredMessage => "deferred_message"
  | update => "update_message"
  | deferredUpdate => "deferred_update_message"
  | form => "modal"

def naming : Naming Kind where
  names := [message, deferredMessage, update, deferredUpdate, form].map fun k => (k.name, k)
  fallback := none
  name := name

end Kind

def kind : Callback → Kind
  | message _ => .message
  | deferredMessage _ => .deferredMessage
  | update _ => .update
  | deferredUpdate => .deferredUpdate
  | form _ => .form

/-- Whether the answer proper follows later. -/
def isDeferred : Callback → Bool
  | deferredMessage _ | deferredUpdate => true
  | message _ | update _ | form _ => false

/-- Reads the data of a callback whose kind is known. -/
def decodeData (m : Medium) (v : Json) : Kind → Except Mismatch Callback
  | .message => (Draft.codec.decode m v).map message
  | .deferredMessage => (Draft.codec.option.decode m v).map deferredMessage
  | .update => (Draft.codec.decode m v).map update
  | .deferredUpdate =>
    if v.isNull then .ok deferredUpdate
    else Codec.refuse v "unit variant InteractionCallback::DeferredUpdateMessage"
  | .form => (Form.codec.decode m v).map form

/-- A callback that has a kind and no data. -/
def withoutData : Kind → Except Mismatch Callback
  | .deferredMessage => .ok (deferredMessage none)
  | .deferredUpdate => .ok deferredUpdate
  | .message | .update | .form => .error (.absent "data")

/-- The type as it is named in mismatches. -/
def typeName : String := "adjacently tagged enum InteractionCallback"

/-- Reads a callback from the kind and the data of an object, in the order in which they
stand.  Data that stand before the kind are set aside until the kind is known. -/
def decodeFields (m : Medium) (fields : List (String × Json)) : Except Mismatch Callback :=
  match fields.filter fun f => f.1 == "kind" || f.1 == "data" with
  | [] => .error (.absent "kind")
  | ("kind", k) :: rest => do
    let kind ← Kind.naming.decode m k
    match rest with
    | [] => withoutData kind
    | (_, v) :: _ => decodeData m v kind
  | _ :: [] => .error (.absent "kind")
  | (_, v) :: (_, k) :: _ => do
    let kind ← Kind.naming.decode m k
    decodeData .buffered v kind

/-- Reads a callback from a sequence of its kind and its data. -/
def decodeItems (m : Medium) : List Json → Except Mismatch Callback
  | [] => .error (.length 0 typeName)
  | k :: rest => do
    let kind ← Kind.naming.decodeFirst k
    match rest with
    | [] => .error (.length 1 typeName)
    | v :: rest =>
      let callback ← decodeData m v kind
      if rest.isEmpty then return callback
      else .error (.length (rest.length + 2) "fewer elements in array")

/-- The data of a callback, if its kind has any. -/
def data : Callback → Option Json
  | message d => some (Draft.codec.encode d)
  | deferredMessage d => some (Draft.codec.option.encode d)
  | update d => some (Draft.codec.encode d)
  | deferredUpdate => none
  | form f => some (Form.codec.encode f)

/-- A callback is written as its kind and its data. -/
def codec : Codec Callback where
  decode m
    | .object fields => decodeFields m fields
    | .array items => decodeItems m items
    | v => Codec.refuse v typeName
  encode c :=
    .object (("kind", .string c.kind.name) :: c.data.toList.map fun v => ("data", v))

end Callback

end InteractionRouting
