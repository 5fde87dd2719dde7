import InteractionRouting.Json.Reader

/-!
# Strings of TOML documents

There are four kinds of strings: basic strings, in which a backslash starts an escape, and
literal strings, which are taken as they stand; both either on one line or, between three
quotes, over several lines.

The functions below take the characters that are still to be read and return what they
read with the characters that are left, or nothing when the text is not well-formed.
-/

namespace InteractionRouting.Toml

/-- A step of the reader: from the text, what it read and the text left. -/
abbrev Reader (α : Type) := List Char → Option (α × List Char)

/-- Tabs and spaces stand between the parts of a line. -/
def isSpace (c : Char) : Bool := c = ' ' || c = '\t'

/-- The text after its leading tabs and spaces. -/
def skipSpace (cs : List Char) : List Char := cs.dropWhile isSpace

/-- The text after the line end it starts with. -/
def lineEnd? : List Char → Option (List Char)
  | '\n' :: cs => some cs
  | '\r' :: '\n' :: cs => some cs
  | _ => none

/-- Whether a character may stand within a line: a tab, or no control character. -/
def isPlain (c : Char) : Bool := c = '\t' || (decide (0x20 ≤ c.toNat) && c ≠ '\x7f')

/-- Reads so many hexadecimal digits after the value of those before. -/
def hexDigits : Nat → Nat → Reader Nat
  | value, 0, cs => some (value, cs)
  | value, n + 1, c :: cs => do
    let d ← Json.hexValue? c
    hexDigits (value * 16 + d) n cs
  | _, _ + 1, [] => none

/-- Reads a character given by so many hexadecimal digits. -/
def codePoint (n : Nat) (cs : List Char) : Option (Char × List Char) := do
  let (value, rest) ← hexDigits 0 n cs
  if value.isValidChar then some (Char.ofNat value, rest) else none

/-- Reads an escape after its backslash. -/
def escape : Reader Char
  | 'u' :: cs => codePoint 4 cs
  | 'U' :: cs => codePoint 8 cs
  | '/' :: _ => none
  | c :: cs => (Json.simpleEscape? c).map fun d => (d, cs)
  | [] => none

/-- Reads a basic string after its opening quote, of at most `fuel` characters. -/
def basicBody : Nat → Reader (List Char)
  | 0, _ => none
  | _ + 1, [] => none
  | fuel + 1, c :: cs =>
    if c = '"' then some ([], cs)
    else if c = '\\' then do
      let (d, rest) ← escape cs
      let (s, rest) ← basicBody fuel rest
      return (d :: s, rest)
    else if isPlain c then do
      let (s, rest) ← basicBody fuel cs
      return (c :: s, rest)
    else none

/-- Reads a literal string after its opening quote. -/
def literalBody : Reader (List Char)
  | [] => none
  | c :: cs =>
    if c = '\'' then some ([], cs)
    else if isPlain c then do
      let (s, rest) ← literalBody cs
      return (c :: s, rest)
    else none

/-- The text after its leading tabs, spaces and line ends. -/
def skipLines : List Char → List Char
  | '\r' :: '\n' :: cs => skipLines cs
  | c :: cs => if isSpace c || c = '\n' then skipLines cs else c :: cs
  | [] => []

/-- The text after a line end that is escaped, with the blanks that follow it. -/
def escapedLineEnd? (cs : List Char) : Option (List Char) :=
  (lineEnd? (skipSpace cs)).map skipLines

/-- The quotes of a run of at most five that stand before the three closing ones: those of
the first two characters after the three. -/
def surplus (quote : Char) : List Char → List Char × List Char
  | c :: d :: cs =>
    if c = quote then if d = quote then ([c, d], cs) else ([c], d :: cs) else ([], c :: d :: cs)
  | [c] => if c = quote then ([c], []) else ([], [c])
  | [] => ([], [])

/-- Whether a text starts with three quotes. -/
def closes (quote : Char) (cs : List Char) : Bool := [quote, quote, quote].isPrefixOf cs

/-- Reads the rest of a string of several lines, of at most `fuel` characters. -/
def linesBody (quote : Char) : Nat → Reader (List Char)
  | 0, _ => none
  | _ + 1, [] => none
  | fuel + 1, c :: cs =>
    if closes quote (c :: cs) then some (surplus quote (cs.drop 2))
    else if c = '\\' ∧ quote = '"' then
      match escape cs with
      | some (d, rest) => do
        let (s, rest) ← linesBody quote fuel rest
        return (d :: s, rest)
      | none => do
        let rest ← escapedLineEnd? cs
        linesBody quote fuel rest
    else
      match lineEnd? (c :: cs) with
      | some rest => do
        let (s, rest) ← linesBody quote fuel rest
        return ('\n' :: s, rest)
      | none =>
        if isPlain c then do
          let (s, rest) ← linesBody quote fuel cs
          return (c :: s, rest)
        else none

/-- Reads a string of several lines after its opening quotes.  A line end right after them
does not count. -/
def lines (quote : Char) (cs : List Char) : Option (List Char × List Char) :=
  let body := (lineEnd? cs).getD cs
  linesBody quote (body.length + 1) body

/-- Reads a string on one line, between the given quotes. -/
def line (quote : Char) (cs : List Char) : Option (List Char × List Char) :=
  if quote = '"' then basicBody (cs.length + 1) cs else literalBody cs

/-- Reads a string after its first quote. -/
def quoted (quote : Char) (cs : List Char) : Option (List Char × List Char) :=
  match cs with
  | c :: d :: rest => if c = quote ∧ d = quote then lines quote rest else line quote cs
  | _ => line quote cs

end InteractionRouting.Toml
