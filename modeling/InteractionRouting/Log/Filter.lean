import InteractionRouting.Config.Basic
import InteractionRouting.Config.Variable
import InteractionRouting.Log.Pattern.Meaning
import InteractionRouting.Log.Pattern.Reader
import InteractionRouting.Text.Basic

/-!
# Log filters

A filter says for every target how severe a log entry has to be to be let through.  It is
made of directives, each of which is for the targets that start with some text, or for all,
and may ask for fields that an event has.  Of the directives for a target the one with the
longest such text counts; without any, nothing is let through.

Other directives are for spans.  They let through the spans themselves, and for the events
outside of spans they do not count.
-/

namespace InteractionRouting.Log

/-! ### The values of fields -/

namespace Pattern

/-- How deep a regular expression may be nested. -/
def maxDepth : Nat := 250

/-- Whether a text is a regular expression.  Two groups cannot have one name. -/
def isExpression (cs : List Char) : Bool :=
  (read? cs).any fun e => decide (e.depth ≤ maxDepth) && decide e.names.Nodup && e.hasMeaning

/-- Whether a text is a number, with a sign or without. -/
def isNumber (cs : List Char) : Bool :=
  let digits := (Toml.splitSign cs).2
  (Config.Variables.decimal? cs).isSome ||
    ["inf", "infinity", "nan"].contains (String.ofList (Text.lowerLatin digits))

/-- Whether a text may be the value of a field: a boolean, a number, or a regular expression, of
which only whether it is one is asked. -/
def isValue (cs : List Char) : Bool := isNumber cs || isExpression cs

end Pattern

/-! ### Thresholds -/

/-- Which entries are let through: those of a level and all that are more severe. -/
inductive Threshold where
  | off
  | error
  | warn
  | info
  | debug
  | trace
deriving DecidableEq

namespace Threshold

def name : Threshold → String
  | off => "off"
  | error => "error"
  | warn => "warn"
  | info => "info"
  | debug => "debug"
  | trace => "trace"

/-- The thresholds from the one that lets nothing through on; each lets more through than
those before it. -/
def all : List Threshold := [off, error, warn, info, debug, trace]

def ofLevel : Config.Level → Threshold
  | .trace => trace
  | .debug => debug
  | .info => info
  | .warn => warn
  | .error => error

/-- Whether entries of a level are let through. -/
def admits (t : Threshold) (l : Config.Level) : Bool :=
  decide (all.idxOf (ofLevel l) ≤ all.idxOf t)

/-- Reads a threshold: its number, with or without a plus, or its name, however the letters
are written. -/
def read? (cs : List Char) : Option Threshold :=
  let digits := if cs.head? = some '+' then cs.tail else cs
  if !digits.isEmpty && digits.all Char.isDigit then
    all[digits.foldl (fun n c => n * 10 + (c.toNat - '0'.toNat)) 0]?
  else all.find? fun t => t.name = String.ofList (Text.lowerLatin cs)

end Threshold

/-- What a directive asks of a field. -/
structure FieldTest where
  name : String
  /-- Whether its value has to match a pattern. -/
  hasPattern : Bool
deriving DecidableEq

/-- A rule of a filter. -/
structure Directive where
  /-- What targets start with; without it, all targets are meant. -/
  target : Option String
  /-- The name of the spans it is for. -/
  span : Option String
  fields : List FieldTest
  threshold : Threshold
deriving DecidableEq

namespace Directive

/-- The rule for all targets. -/
def forAll (t : Threshold) : Directive := ⟨none, none, [], t⟩

/-- Whether it is known without looking into spans when it counts. -/
def isStatic (d : Directive) : Bool := d.span.isNone && d.fields.all fun f => !f.hasPattern

/-- Whether it says anything about spans. -/
def isForSpans (d : Directive) : Bool := d.span.isSome || !d.fields.isEmpty

def fieldNames (d : Directive) : List String := d.fields.map (·.name)

/-! ### Reading

A directive is a level, a target, or a target, an equals sign and a level.  After the target
it may say in square brackets for which spans, and in braces inside them for which fields,
it is meant.  A target without a level lets everything through. -/

/-- What is being read. -/
inductive Stage where
  | start
  /-- A level or a target, from a position on. -/
  | word (start : Nat)
  | span (start : Nat)
  | field (start : Nat)
  | fields
  /-- The part after the spans. -/
  | mark
  | level (start : Nat)
  | complete
deriving DecidableEq

/-- Whether a directive may start with a character, if not with a bracket. -/
def starts (c : Char) : Bool := ['-', ':', '_'].contains c || Text.isAlphanumeric c

/-- The characters of a text between two positions, which are counted in bytes. -/
def between (text : List Char) (i j : Nat) : List Char :=
  Text.takeBytes (j - i) (Text.dropBytes i text)

/-- Reads a level or a target. -/
def ofWord (d : Directive) (word : List Char) : Directive :=
  match Threshold.read? word with
  | some t => { d with target := none, threshold := t }
  | none => { d with target := some (String.ofList word), threshold := .trace }

/-- Reads a level, which may be left out. -/
def withLevel? (d : Directive) (level : List Char) : Option Directive :=
  if level.isEmpty then some { d with threshold := .trace }
  else (Threshold.read? level).map fun t => { d with threshold := t }

/-- Reads a field: its name, and after an equals sign its value, up to another such sign. -/
def withField? (d : Directive) (field : List Char) : Option Directive :=
  let name := field.takeWhile (· ≠ '=')
  let read (hasPattern : Bool) :=
    some { d with fields := d.fields ++ [⟨String.ofList name, hasPattern⟩] }
  if field.isEmpty then none
  else
    match field.drop name.length with
    | [] => read false
    | _ :: value => if Pattern.isValue (value.takeWhile (· ≠ '=')) then read true else none

/-- Reads on by the character at a position. -/
def advance (text : List Char) (d : Directive) (position : Nat) (c : Char) :
    Stage → Option (Directive × Stage)
  | .start =>
    if c = '[' then some (d, .span (position + 1))
    else if starts c then some (d, .word position)
    else none
  | .word start =>
    if c = '=' ∨ c = '[' then
      let d := { d with target := some (String.ofList (between text start position)) }
      some (d, if c = '=' then .level (position + 1) else .span (position + 1))
    else if c = ',' then some (d.ofWord (Text.dropBytes start text), .complete)
    else some (d, .word start)
  | .span start =>
    if c = ']' ∨ c = '\x7b' then
      let name := between text start position
      let d := { d with span :=
        if c = '\x7b' && name.isEmpty then none else some (String.ofList name) }
      some (d, if c = ']' then .mark else .field (position + 1))
    else some (d, .span start)
  | .field start =>
    if c = '\x7d' ∨ c = ',' then
      (d.withField? (between text start position)).map fun d =>
        (d, if c = ',' then .field (position + 1) else .fields)
    else some (d, .field start)
  | .fields => if c = ']' then some (d, .mark) else none
  | .mark => if c = '=' then some (d, .level (position + 1)) else none
  | .level start =>
    if c = ',' then (d.withLevel? (between text start position)).map fun d => (d, .complete)
    else some (d, .level start)
  | .complete => none

/-- Reads on to the end of the scanned characters. -/
def scan (text : List Char) : Directive → Nat → Stage → List Char → Option (Directive × Stage)
  | d, _, stage, [] => some (d, stage)
  | d, position, stage, c :: cs => do
    let (d, stage) ← advance text d position c stage
    scan text d (position + c.utf8Size) stage cs

/-- What is read when the text ends. -/
def finish? (text : List Char) (d : Directive) : Stage → Option Directive
  | .word start => some (d.ofWord (Text.dropBytes start text))
  | .level start => d.withLevel? (Text.dropBytes start text)
  | .mark | .complete => some d
  | .start | .span _ | .field _ | .fields => none

/-- Reads a directive.  The blanks around it are not scanned, and the parts that the scan
marks off are those of the text as it stands. -/
def read? (text : String) : Option Directive := do
  let cs := text.toList
  let (d, stage) ← scan cs (forAll .trace) 0 .start (Text.trimChars cs)
  finish? cs d stage

/-! ### Applying -/

/-- Whether a rule is for a target. -/
def concerns (d : Directive) (target : String) : Bool :=
  d.target.all fun t => target.startsWith t

/-- Whether all the fields a rule asks for are there. -/
def findsIn (d : Directive) (fields : List String) : Bool :=
  d.fieldNames.all fun name => fields.contains name

/-- How specific a rule is by its target: one for all targets is the least, then the length of
the text counts. -/
def weight (d : Directive) : Nat := (d.target.map fun t => t.utf8ByteSize + 1).getD 0

/-- Whether a rule counts before another for the same target: by its target, then by the number
of its fields, and last by their names. -/
def precedes (d e : Directive) : Bool :=
  if d.weight ≠ e.weight then e.weight < d.weight
  else if d.fields.length ≠ e.fields.length then e.fields.length < d.fields.length
  else e.fieldNames < d.fieldNames

/-- Of rules the one that counts. -/
def foremost? (l : List Directive) : Option Directive :=
  l.foldl (fun best d => if best.all d.precedes then some d else best) none

/-- What rules for the same target come to.  Without any, nothing is let through. -/
def thresholdOf (l : List Directive) : Threshold := ((foremost? l).map (·.threshold)).getD .off

end Directive

/-- Rules, of which no two are for the same targets and fields, and those for spans. -/
structure Filter where
  directives : List Directive
  spans : List Directive

namespace Filter

/-- Adds a rule in place of the one for the same targets and fields. -/
def addStatic (f : Filter) (d : Directive) : Filter :=
  { f with directives := (f.directives.filter fun known =>
      known.target ≠ d.target || known.fieldNames ≠ d.fieldNames) ++ [d] }

/-- Adds a rule where it belongs. -/
def add (f : Filter) (d : Directive) : Filter :=
  if d.isStatic then f.addStatic d else { f with spans := f.spans ++ [d] }

/-- The filter of rules, later ones in place of earlier ones.  A rule that asks for fields and
is for no spans of its own counts for events as well as for spans. -/
def ofDirectives (l : List Directive) : Filter :=
  (l.filter (·.isStatic)).foldl addStatic ⟨[], l.filter (·.isForSpans)⟩

/-- Reads rules with commas between them; nothing when one does not read. -/
def read? (text : String) : Option Filter :=
  (((text.splitOn ",").filter fun s => !s.isEmpty).mapM Directive.read?).map ofDirectives

/-- Which entries of a target are let through at most.  The fields do not count. -/
def threshold (f : Filter) (target : String) : Threshold :=
  Directive.thresholdOf (f.directives.filter (·.concerns target))

/-- Whether an event with some fields is let through. -/
def admitsEvent (f : Filter) (target : String) (fields : List String) (l : Config.Level) : Bool :=
  let rules := f.directives.filter fun d => d.concerns target && d.findsIn fields
  (Directive.thresholdOf rules).admits l

/-- Whether a span with some fields is let through.  One that a rule for spans is about always
is. -/
def admitsSpan (f : Filter) (target name : String) (fields : List String) (l : Config.Level) :
    Bool :=
  (f.spans.any fun d => d.concerns target && d.span.all (· = name) && d.findsIn fields) ||
    (f.threshold target).admits l

end Filter

end InteractionRouting.Log
