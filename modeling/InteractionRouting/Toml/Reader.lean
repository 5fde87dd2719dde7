import InteractionRouting.Toml.Scalar
import InteractionRouting.Toml.Tree

/-!
# Reading TOML documents

`Toml.parse` reads a document as the object of its top-level keys.  A document is refused
when it is not well-formed or sets a key twice.
-/

namespace InteractionRouting.Toml

/-! ### Keys -/

/-- Whether a character may stand in a key without quotes. -/
def isKeyChar (c : Char) : Bool := c.isAlphanum || c = '_' || c = '-'

/-- Reads one part of a key. -/
def keyPart : Reader String
  | '"' :: cs => (line '"' cs).map fun (s, rest) => (String.ofList s, rest)
  | '\'' :: cs => (line '\'' cs).map fun (s, rest) => (String.ofList s, rest)
  | cs =>
    match cs.takeWhile isKeyChar with
    | [] => none
    | part => some (String.ofList part, cs.dropWhile isKeyChar)

/-- Reads a key of at most `fuel` parts with dots between them, and the spaces around
it. -/
def key : Nat → Reader (List String)
  | 0, _ => none
  | fuel + 1, cs => do
    let (part, rest) ← keyPart (skipSpace cs)
    match skipSpace rest with
    | '.' :: rest => do
      let (parts, rest) ← key fuel rest
      return (part :: parts, rest)
    | rest => return ([part], rest)

/-- How deep values may be nested, and how many parts a key may have. -/
def maxDepth : Nat := 79

/-- Reads a key and the equals sign after it.  Gives the parts before the last, and the
last. -/
def assigned (cs : List Char) : Option ((List String × String) × List Char) := do
  let (parts, rest) ← key maxDepth cs
  let last ← parts.getLast?
  let rest ← mark? '=' rest
  return ((parts.dropLast, last), rest)

/-! ### Values -/

/-- The text after blanks, line ends and comments, of at most `fuel` lines. -/
def skipBlank : Nat → List Char → List Char
  | 0, cs => cs
  | fuel + 1, cs =>
    match skipSpace cs with
    | '#' :: rest => skipBlank fuel (rest.dropWhile isPlain)
    | rest =>
      match lineEnd? rest with
      | some rest => skipBlank fuel rest
      | none => rest

/-- The text after blanks, line ends and comments. -/
def skipBlanks (cs : List Char) : List Char := skipBlank (cs.length + 1) cs

/-- Reads the items of an array up to its closing bracket, of at most `fuel` of them. -/
def items (value : Reader Json) : Nat → Reader (List Json)
  | 0, _ => none
  | fuel + 1, cs =>
    match skipBlanks cs with
    | ']' :: rest => some ([], rest)
    | rest => do
      let (v, rest) ← value rest
      match skipBlanks rest with
      | ',' :: rest => do
        let (vs, rest) ← items value fuel rest
        return (v :: vs, rest)
      | ']' :: rest => return ([v], rest)
      | _ => none

/-- Reads the pairs of an inline table up to its closing brace, of at most `fuel` of them,
into the entries before. -/
def pairs (value : Reader Json) : Nat → Entries → Reader Entries
  | 0, _, _ => none
  | fuel + 1, entries, cs => do
    let ((path, last), rest) ← assigned cs
    let (v, rest) ← value (skipSpace rest)
    let entries ← setKey path last v .header entries
    match skipSpace rest with
    | ',' :: rest => pairs value fuel entries rest
    | '\x7d' :: rest => return (entries, rest)
    | _ => none

/-- Reads an inline table after its opening brace. -/
def inlineTable (value : Reader Json) (cs : List Char) : Option (Entries × List Char) :=
  match skipSpace cs with
  | '\x7d' :: rest => some ([], rest)
  | rest => pairs value (rest.length + 1) [] rest

/-- Reads a value whose arrays and tables are nested at most `depth` deep. -/
def value : Nat → Reader Json
  | depth, cs =>
    match cs with
    | [] => none
    | c :: rest =>
      if c = '"' ∨ c = '\'' then
        (quoted c rest).map fun (s, rest) => (.string (String.ofList s), rest)
      else if c = '[' then
        match depth with
        | 0 => none
        | depth + 1 =>
          (items (value depth) (rest.length + 1) rest).map fun (vs, rest) => (.array vs, rest)
      else if c = '\x7b' then
        match depth with
        | 0 => none
        | depth + 1 =>
          (inlineTable (value depth) rest).map fun (entries, rest) =>
            (.object (entriesToJson entries), rest)
      else scalar (c :: rest)

/-! ### Documents -/

/-- The text after the end of a line, on which only a comment may be left. -/
def endLine? (cs : List Char) : Option (List Char) :=
  let rest := match skipSpace cs with
    | '#' :: rest => rest.dropWhile isPlain
    | rest => rest
  if rest.isEmpty then some [] else lineEnd? rest

/-- What was read of a document: the tree, and the path of the table opened last. -/
structure Draft where
  entries : Entries
  opened : List String

/-- Reads a header up to its closing brackets, and opens its table. -/
def header (d : Draft) (many : Bool) (cs : List Char) : Option (Draft × List Char) := do
  let (parts, rest) ← key maxDepth cs
  let last ← parts.getLast?
  let rest ← mark? ']' rest
  let rest ← if many then mark? ']' rest else some rest
  let entries ← if many then addTable parts.dropLast last d.entries
    else openTable parts.dropLast last d.entries
  return (⟨entries, parts⟩, rest)

/-- Reads a line that is not blank. -/
def statement (d : Draft) : List Char → Option (Draft × List Char)
  | '[' :: '[' :: cs => header d true cs
  | '[' :: cs => header d false cs
  | cs => do
    let ((path, last), rest) ← assigned cs
    let (v, rest) ← value maxDepth (skipSpace rest)
    let entries ← setBelow d.opened path last v d.entries
    return ({ d with entries := entries }, rest)

/-- Reads the lines of a document, of at most `fuel` of them. -/
def document : Nat → Draft → List Char → Option Draft
  | 0, _, _ => none
  | fuel + 1, d, cs =>
    match skipBlanks cs with
    | [] => some d
    | rest => do
      let (d, rest) ← statement d rest
      let rest ← endLine? rest
      document fuel d rest

/-- The text after the mark of its byte order, if it has one. -/
def afterByteOrder : List Char → List Char
  | '\ufeff' :: cs => cs
  | cs => cs

/-- Reads a document as the object of its top-level keys. -/
def parse (text : String) : Option Json :=
  let cs := afterByteOrder text.toList
  (document (cs.length + 1) ⟨[], []⟩ cs).map fun d => .object (entriesToJson d.entries)

end InteractionRouting.Toml
