import InteractionRouting.Log.Pattern.Expression
import InteractionRouting.Text.Alphanumeric
import InteractionRouting.Text.Basic
import InteractionRouting.Toml.Scalar

/-!
# Reading regular expressions

`read?` reads a regular expression.  Where a flag says so, blanks and comments between its
parts do not count.

Counts of repetitions are not read, nor are classes by a Unicode property.
-/

namespace InteractionRouting.Log.Pattern

/-! ### Blanks and comments -/

/-- The text after blanks and comments, and first after the rest of a comment. -/
def skipComments : Bool → List Char → List Char
  | _, [] => []
  | true, c :: cs => skipComments (c ≠ '\n') cs
  | false, c :: cs =>
    if Text.isBlank c then skipComments false cs
    else if c = '#' then skipComments true cs
    else c :: cs

/-- The text after blanks and comments, where they do not count. -/
def skip (spaced : Bool) (cs : List Char) : List Char :=
  if spaced then skipComments false cs else cs

/-- The first character that is neither a blank nor the first number sign. -/
def peekOver : Bool → List Char → Option Char
  | _, [] => none
  | seen, c :: cs =>
    if Text.isBlank c then peekOver seen cs
    else if c = '#' && !seen then peekOver true cs
    else some c

/-- The character that is looked at ahead.  A comment is not passed over, only the sign it
starts with. -/
def peek (spaced : Bool) (cs : List Char) : Option Char :=
  if spaced then (peekOver false cs).or cs.head? else cs.head?

/-! ### Single parts -/

/-- Reads so many hexadecimal digits after the value of those before. -/
def hexDigits (spaced : Bool) : Nat → Nat → List Char → Option (Nat × List Char)
  | value, 0, cs => some (value, cs)
  | value, n + 1, cs =>
    match skip spaced cs with
    | [] => none
    | c :: rest => (Json.hexValue? c).bind fun d => hexDigits spaced (value * 16 + d) n rest

/-- Reads a character given by so many hexadecimal digits. -/
def hexChar (spaced : Bool) (digits : Nat) (cs : List Char) :
    Option (Expression × List Char) := do
  let (value, rest) ← hexDigits spaced 0 digits cs
  if value.isValidChar then some (.literal ⟨Char.ofNat value, digits = 2⟩, rest) else none

/-- The control characters that are escaped by a letter. -/
def controls : List (Char × Char) :=
  [('a', '\x07'), ('f', '\x0c'), ('t', '\t'), ('n', '\n'), ('r', '\r'), ('v', '\x0b')]

/-- Reads an escape after its backslash. -/
def escape (spaced : Bool) : List Char → Option (Expression × List Char)
  | [] => none
  | c :: cs =>
    if c = 'x' then hexChar spaced 2 cs
    else if c = 'u' then hexChar spaced 4 cs
    else if c = 'U' then hexChar spaced 8 cs
    else if ['d', 's', 'w'].contains c then some (.letter false, cs)
    else if ['D', 'S', 'W'].contains c then some (.letter true, cs)
    else if ['b', 'B', '<', '>'].contains c then some (.wordBorder, cs)
    else if c = 'A' ∨ c = 'z' then some (.border, cs)
    else
      match controls.lookup c with
      | some control => some (.literal ⟨control, false⟩, cs)
      | none =>
        if c.isAlphanum ∨ 0x80 ≤ c.toNat then none else some (.literal ⟨c, false⟩, cs)

/-! ### Classes in brackets -/

/-- The names of classes of ASCII characters. -/
def classNames : List String := ["alnum", "alpha", "ascii", "blank", "cntrl", "digit", "graph",
  "lower", "print", "punct", "space", "upper", "word", "xdigit"]

/-- Reads a class that is named between colons and closed by a bracket. -/
def namedClass? (cs : List Char) : Option (CharSet × List Char) := do
  let cs ← Toml.mark? ':' cs
  let inner := (Toml.mark? '^' cs).getD cs
  let name := inner.takeWhile (· ≠ ':')
  let rest ← Toml.mark? ':' (inner.drop name.length)
  let rest ← Toml.mark? ']' rest
  if classNames.contains (String.ofList name) then
    some (.named (decide (inner.length < cs.length)), rest)
  else none

/-- The dashes at the beginning of a text, and the text after them. -/
def dashes (spaced : Bool) : Nat → List Char → List CharSet × List Char
  | 0, cs => ([], cs)
  | fuel + 1, cs =>
    match cs with
    | '-' :: rest =>
      let (more, rest) := dashes spaced fuel (skip spaced rest)
      (.literal ⟨'-', false⟩ :: more, rest)
    | _ => ([], cs)

/-- The beginning of a class: whether a circumflex negates it, and what stands for itself
there only, which is any number of dashes, or a bracket. -/
def classStart (spaced : Bool) (cs : List Char) : Bool × List CharSet × List Char :=
  let outer := skip spaced cs
  let inner := ((Toml.mark? '^' outer).map (skip spaced)).getD outer
  let negated := outer.head? = some '^'
  match dashes spaced inner.length inner with
  | ([], ']' :: rest) => (negated, [.literal ⟨']', false⟩], rest)
  | (items, rest) => (negated, items, rest)

/-- Reads an item of a class: a character that stands for itself, or an escape. -/
def classItem (spaced : Bool) : List Char → Option (CharSet × List Char)
  | [] => none
  | '\\' :: cs =>
    match escape spaced cs with
    | some (.literal l, rest) => some (.literal l, rest)
    | some (.letter negated, rest) => some (.letter negated, rest)
    | _ => none
  | c :: cs => some (.literal ⟨c, false⟩, cs)

/-- Reads a single item of a class, or a range of characters with a dash between its ends. -/
def classRange? (spaced : Bool) (cs : List Char) : Option (CharSet × List Char) := do
  let (first, rest) ← classItem spaced cs
  match skip spaced rest with
  | '-' :: rest =>
    if peek spaced rest = some ']' ∨ peek spaced rest = some '-' then
      some (first, '-' :: rest)
    else do
      let (last, rest) ← classItem spaced (skip spaced rest)
      match first, last with
      | .literal a, .literal b =>
        if a.char.toNat ≤ b.char.toNat then some (.range a b, rest) else none
      | _, _ => none
  | rest => some (first, rest)

/-- The set of some items, which are given from the last to the first. -/
def setOf : List CharSet → CharSet
  | [] => .nothing
  | [s] => s
  | items => .several items.reverse

/-- The set of what stands before an operator, if there was one, and some items. -/
def joined (left : Option CharSet) (items : List CharSet) : CharSet :=
  match left with
  | none => setOf items
  | some left => .operation left (setOf items)

/-- Reads the rest of a class up to its closing bracket, of at most `fuel` items. -/
def classRest? (spaced : Bool) :
    Nat → Option CharSet → List CharSet → List Char → Option (CharSet × List Char)
  | 0, _, _, _ => none
  | fuel + 1, left, items, cs =>
    match skip spaced cs with
    | [] => none
    | '[' :: rest =>
      match namedClass? rest with
      | some (s, rest) => classRest? spaced fuel left (s :: items) rest
      | none => do
        let (negated, start, rest) := classStart spaced rest
        let (s, rest) ← classRest? spaced fuel none start.reverse rest
        classRest? spaced fuel left (.bracketed negated s :: items) rest
    | ']' :: rest => some (joined left items, rest)
    | '&' :: '&' :: rest | '-' :: '-' :: rest | '~' :: '~' :: rest =>
      classRest? spaced fuel (some (joined left items)) [] rest
    | rest => do
      let (s, rest) ← classRange? spaced rest
      classRest? spaced fuel left (s :: items) rest

/-- Reads a class after its opening bracket. -/
def bracketed? (spaced : Bool) (cs : List Char) : Option (Expression × List Char) := do
  let (negated, start, rest) := classStart spaced cs
  let (s, rest) ← classRest? spaced (rest.length + 1) none start.reverse rest
  return (.bracketed negated s, rest)

/-! ### Groups -/

/-- How a parenthesis goes on. -/
inductive Opening where
  /-- It only sets flags. -/
  | flags (changes : List FlagChange)
  /-- It opens a group. -/
  | group (name : Option (List Char)) (changes : List FlagChange)

/-- Whether a text is the name of a group. -/
def isName : List Char → Bool
  | [] => false
  | c :: cs => (c = '_' || Text.isAlphabetic c) &&
    cs.all fun c => ['_', '.', '[', ']'].contains c || Text.isAlphanumeric c

/-- Reads the name of a group. -/
def groupName (cs : List Char) : Option (Opening × List Char) := do
  let name := cs.takeWhile (· ≠ '>')
  let rest ← Toml.mark? '>' (cs.drop name.length)
  if isName name then some (.group (some name) [], rest) else none

/-- The flags that can be set. -/
def flagNames : List Char := ['i', 'm', 's', 'U', 'u', 'R', 'x']

/-- What a text of flags sets: each flag once, those after a dash to be turned off. -/
def flagChanges? (text : List Char) : Option (List FlagChange) :=
  if text.all (fun c => c = '-' || flagNames.contains c) && decide text.Nodup &&
      text.getLast? ≠ some '-' then
    some ((text.takeWhile (· ≠ '-')).map (⟨·, true⟩) ++
      ((text.dropWhile (· ≠ '-')).drop 1).map (⟨·, false⟩))
  else none

/-- Reads flags, for the group that a colon opens or for the rest of the group they stand
in. -/
def flagGroup (cs : List Char) : Option (Opening × List Char) := do
  let text := cs.takeWhile fun c => c ≠ ':' && c ≠ ')'
  let changes ← flagChanges? text
  match cs.drop text.length with
  | ':' :: rest => some (.group none changes, rest)
  | ')' :: rest => if text.isEmpty then none else some (.flags changes, rest)
  | _ => none

/-- Reads how a parenthesis goes on.  Looking ahead or behind is not possible. -/
def opening (spaced : Bool) (cs : List Char) : Option (Opening × List Char) :=
  match skip spaced cs with
  | '?' :: '=' :: _ | '?' :: '!' :: _ | '?' :: '<' :: '=' :: _ | '?' :: '<' :: '!' :: _ => none
  | '?' :: 'P' :: '<' :: rest | '?' :: '<' :: rest => groupName rest
  | '?' :: rest => flagGroup rest
  | rest => some (.group none [], rest)

/-- Whether blanks and comments count, after changes of flags. -/
def spacedAfter (changes : List FlagChange) (spaced : Bool) : Bool :=
  ((changes.find? fun c => c.flag = 'x').map (·.value)).getD spaced

/-! ### Expressions -/

/-- Reads a part that has no parts of its own, after its first character. -/
def single (spaced : Bool) (c : Char) (cs : List Char) : Option (Expression × List Char) :=
  if c = '\\' then escape spaced cs
  else if c = '.' then some (.anyChar, cs)
  else if c = '^' ∨ c = '$' then some (.border, cs)
  else some (.literal ⟨c, false⟩, cs)

/-- The expression of some parts, which are given from the last to the first. -/
def sequenceOf : List Expression → Expression
  | [] => .empty
  | [e] => e
  | parts => .sequence parts.reverse

/-- The expression of alternatives and the parts of the last one, which are both given from
the last to the first. -/
def choiceOf (before : List Expression) (parts : List Expression) : Expression :=
  match before with
  | [] => sequenceOf parts
  | _ => .choice (before.reverse ++ [sequenceOf parts])

/-- Repeats the last of some parts.  Flags cannot be repeated. -/
def repeatLast? : List Expression → Option (List Expression)
  | [] | .flags _ :: _ => none
  | e :: parts => some (.repeated e :: parts)

/-- Reads up to the parenthesis that closes a group, or to the end of the text, in at most
`fuel` parts.  The alternatives and parts before are given from the last to the first. -/
def branches : Nat → Bool → List Expression → List Expression → List Char →
    Option (Expression × List Char)
  | 0, _, _, _, _ => none
  | fuel + 1, spaced, before, parts, cs =>
    match skip spaced cs with
    | [] => some (choiceOf before parts, [])
    | c :: rest =>
      if c = ')' then some (choiceOf before parts, c :: rest)
      else if c = '|' then branches fuel spaced (sequenceOf parts :: before) [] rest
      else if c = '(' then do
        let (o, rest) ← opening spaced rest
        match o with
        | .flags changes =>
          branches fuel (spacedAfter changes spaced) before (.flags changes :: parts) rest
        | .group name changes => do
          let (inner, rest) ← branches fuel (spacedAfter changes spaced) [] [] rest
          let rest ← Toml.mark? ')' rest
          branches fuel spaced before (.group name changes inner :: parts) rest
      else if c = '?' ∨ c = '*' ∨ c = '+' then do
        let parts ← repeatLast? parts
        branches fuel spaced before parts ((Toml.mark? '?' rest).getD rest)
      else if c = '\x7b' then none
      else do
        let (e, rest) ← if c = '[' then bracketed? spaced rest else single spaced c rest
        branches fuel spaced before (e :: parts) rest

/-- Reads a regular expression. -/
def read? (cs : List Char) : Option Expression :=
  match branches (cs.length + 1) false [] [] cs with
  | some (e, []) => some e
  | _ => none

end InteractionRouting.Log.Pattern
