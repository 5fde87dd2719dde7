import InteractionRouting.Config.Layer
import InteractionRouting.Text.Basic
import InteractionRouting.Text.LowerCase
import InteractionRouting.Toml.Reader

/-!
# Variables

Settings can be given by variables of the process.  The name of such a variable starts with
`SWITCHBOARD_`, and two underscores stand between the keys of its setting.  Its text is read
as a boolean, a number, a quoted string, an array or a table, and otherwise stands for
itself.
-/

namespace InteractionRouting.Config

/-- Variables with their texts, in order. -/
abbrev Variables := List (String × String)

namespace Variables

/-! ### Names -/

/-- What the names of variables with settings start with. -/
def mark : String := "SWITCHBOARD_"

/-- The text after a start, however its letters are written. -/
def afterMark? (name : List Char) : Option (List Char) :=
  let start := name.take mark.length
  if Text.lowerLatin start = Text.lowerLatin mark.toList then some (name.drop mark.length)
  else none

/-- The keys of the setting a variable gives, if it gives one.  The variable that chooses
the profile gives none.  Blanks around the name do not count, neither before what names start
with nor after it. -/
def keys? (name : String) : Option (List String) := do
  let rest ← afterMark? (Text.trimChars name.toList)
  let name := String.ofList (Text.lowerLatin rest)
  if name = "profile" then none
  else
    let keys := (Text.trim (name.replace "__" ".")).splitOn "."
    if keys.any (·.isEmpty) then none else some keys

/-! ### Texts -/

open Toml (Reader)

/-- Blanks between the parts of a text. -/
def isGap (c : Char) : Bool := [' ', '\t', '\n', '\r', '\x0c'].contains c

/-- The text after the blanks it starts with. -/
def skipGap (cs : List Char) : List Char := cs.dropWhile isGap

/-- Whether a character may stand in a text without quotes. -/
def isBare (c : Char) : Bool := [',', '\x7b', '\x7d', '[', ']'].all (· ≠ c)

/-- The number before an exponent: its digits, and how many of them are in the fraction. -/
def significand? (cs : List Char) : Option (List Char × Nat) :=
  let (whole, fraction) := Toml.splitAtFirst (· = '.') cs
  let fraction := fraction.getD []
  let digits := whole ++ fraction
  if digits.isEmpty || !digits.all Char.isDigit then none else some (digits, fraction.length)

/-- A number with a point. -/
def decimal? (cs : List Char) : Option Json := do
  let (negative, cs) := Toml.splitSign cs
  let (significand, power) := Toml.splitAtFirst (fun c => c = 'e' || c = 'E') cs
  let (digits, places) ← significand? significand
  let power ← match power with
    | none => some 0
    | some cs =>
      let (below, ds) := Toml.splitSign cs
      if ds.isEmpty || !ds.all Char.isDigit then none
      else
        let n : Int := Toml.numeral 10 ds
        some (if below then -n else n)
  let x := Decimal.nearest (Toml.numeral 10 digits) digits.length (power - places)
  return .float (if negative then -x else x)

/-- An integer of a word. -/
def integer? (cs : List Char) : Option Json :=
  let (negative, digits) := Toml.splitSign cs
  if digits.isEmpty || !digits.all Char.isDigit then none
  else
    let n : Int := Toml.numeral 10 digits
    (WideInt.ofInt? (if negative then -n else n)).map .int

/-- A text without quotes: a number, or itself. -/
def bare (cs : List Char) : Json :=
  let decimal := if cs.contains '.' then decimal? cs else none
  (decimal.or (integer? cs)).getD (.string (String.ofList cs))

/-- Reads the items of a list up to a closing character, of at most `fuel` of them. -/
def collect {α : Type} (item : Reader α) (close : Char) : Nat → Reader (List α)
  | 0, _ => none
  | fuel + 1, cs =>
    match Toml.mark? close cs with
    | some rest => some ([], rest)
    | none => do
      let (a, rest) ← item cs
      match Toml.mark? ',' rest with
      | some rest => do
        let (more, rest) ← collect item close fuel rest
        return (a :: more, rest)
      | none => do
        let rest ← Toml.mark? close rest
        return ([a], rest)

/-- Reads a string after its opening quote.  Of what stands before its first escape, only as
many bytes are kept as there are characters. -/
def quoted (cs : List Char) : Option (List Char × List Char) := do
  let (s, rest) ← Toml.line '"' cs
  let raw := cs.take (cs.length - rest.length - 1)
  let plain := raw.takeWhile (· ≠ '\\')
  if plain = raw then return (s, rest)
  else return (Text.takeBytes plain.length plain ++ s.drop plain.length, rest)

/-- Reads a key: a string in quotes, or letters, digits, underscores and dashes. -/
def key : Reader (List Char)
  | '"' :: cs => quoted cs
  | cs =>
    match cs.takeWhile Toml.isKeyChar with
    | [] => none
    | name => some (name, cs.dropWhile Toml.isKeyChar)

/-- Reads a key with its value. -/
def pair (value : Reader Json) (cs : List Char) : Option ((String × Json) × List Char) := do
  let (name, rest) ← key (skipGap cs)
  let rest ← Toml.mark? '=' (skipGap rest)
  let (v, rest) ← value rest
  return ((String.ofList name, v), rest)

/-- The text after a start. -/
def after? (start cs : List Char) : Option (List Char) :=
  if start.isPrefixOf cs then some (cs.drop start.length) else none

/-- Reads a value without blanks around it, where the values inside are read by `inner`. -/
def unspaced (inner : Reader Json) (cs : List Char) : Option (Json × List Char) :=
  match after? ['t', 'r', 'u', 'e'] cs, after? ['f', 'a', 'l', 's', 'e'] cs, cs with
  | some rest, _, _ => some (.bool true, rest)
  | _, some rest, _ => some (.bool false, rest)
  | _, _, '\x7b' :: rest =>
    (collect (pair inner) '\x7d' (rest.length + 1) rest).map fun (fields, rest) =>
      (.object (Table.ofList fields).entries, rest)
  | _, _, '[' :: rest =>
    (collect inner ']' (rest.length + 1) rest).map fun (items, rest) => (.array items, rest)
  | _, _, '"' :: rest => (quoted rest).map fun (s, rest) => (.string (String.ofList s), rest)
  | _, _, '\'' :: rest =>
    match rest with
    | c :: '\'' :: rest => some (.string (String.ofList [c]), rest)
    | _ => none
  | _, _, cs => some (bare (Text.trimChars (cs.takeWhile isBare)), cs.dropWhile isBare)

/-- Reads a value with the blanks around it, nested less than `depth` deep. -/
def spaced : Nat → Reader Json
  | 0, _ => none
  | depth + 1, cs =>
    (unspaced (spaced depth) (skipGap cs)).map fun (v, rest) => (v, skipGap rest)

/-- The value of a text: what it reads as from its beginning to its end, or itself. -/
def value (text : String) : Json :=
  match spaced (text.length + 1) text.toList with
  | some (v, []) => v
  | _ => .string text

/-- The layer of a variable, if it gives a setting. -/
def layerOf? (v : String × String) : Option Json :=
  (keys? v.1).map fun keys => nested keys (value v.2)

/-- The layer of a list of them, later ones over earlier ones. -/
def layer (l : Variables) : Json := stack (l.filterMap layerOf?)

end Variables

end InteractionRouting.Config
