import InteractionRouting.EventLoop

/-!
# Reports

Arguments, and what happened while events were handled, as JSON objects.
-/

namespace InteractionRouting

/-- An object with one field besides those that follow. -/
def reportOf (key value : String) (more : List (String × Json)) : Json :=
  .object ((key, .string value) :: more)

/-- The name of the kind of an argument. -/
def Argument.variant : Argument → String
  | string _ => "String"
  | number _ => "Number"
  | integer _ => "Integer"
  | boolean _ => "Boolean"
  | user _ => "User"
  | role _ => "Role"
  | channel _ => "Channel"

/-- An argument with the name of its kind. -/
def Argument.report (a : Argument) : Json :=
  .object [("variant", .string a.variant), ("value", a.encode)]

/-- The name of the kind of a platform error. -/
def PlatformError.label : PlatformError → String
  | notConnected => "NotConnected"
  | rejected _ _ => "Platform"
  | unknownInteraction => "UnknownInteraction"
  | serialization _ => "Serialization"
  | other _ => "Other"

/-- A platform call with all that was sent along. -/
def Call.report (c : Call) : Json :=
  let api := reportOf "api" c.kind.name
  match c with
  | sendCallback id token callback =>
    let sent := Callback.codec.encode callback
    api [("id", .string id), ("token", .string token), ("callback", sent),
      ("text", .string sent.render)]
  | getResponse token | deleteResponse token => api [("token", .string token)]
  | editResponse token d | createFollowup token d =>
    api [("token", .string token), ("fields", Draft.codec.encode d)]
  | getFollowup token id | deleteFollowup token id =>
    api [("token", .string token), ("messageId", .string id)]
  | editFollowup token id d =>
    api [("token", .string token), ("messageId", .string id), ("fields", Draft.codec.encode d)]

/-- Something that happened; a note stands for itself. -/
def Happening.report : Happening Json → Json
  | call c => c.report
  | note v => v
  | registration m => .object [("registrar", Manifest.codec.encode m)]

/-- How far the answer to an interaction has come. -/
def Progress.report (p : Progress) : Json :=
  .object [("hasSentCallback", .bool p.callbackSent), ("isResponseDeferred", .bool p.deferred),
    ("isDeferredResponseSent", .bool p.resultSent)]

/-- A subscriber that failed. -/
def Failure.report (f : Failure) : Json :=
  .object [("target", .string f.target), ("tag", .string f.tag),
    ("subscriber", .string f.subscriber), ("error", .string f.error),
    ("panicked", .bool f.panicked), ("text", .string f.message)]

/-- What came of an event. -/
def Outcome.report (o : Outcome) : Json :=
  .object [("delivered", .ofNat o.delivered), ("failures", .array (o.failures.map Failure.report)),
    ("clean", .bool o.isClean)]

/-- What was counted. -/
def Tally.report (t : Tally) : Json :=
  .object [("eventsReceived", .ofNat t.received), ("eventsDispatched", .ofNat t.dispatched),
    ("deliveries", .ofNat t.deliveries), ("subscriberFailures", .ofNat t.failures)]

end InteractionRouting
