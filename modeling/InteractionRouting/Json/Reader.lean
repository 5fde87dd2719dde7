import InteractionRouting.Decimal.Scaling
import InteractionRouting.Json.Basic
import InteractionRouting.Table

/-!
# Reading JSON text

`Json.parse` reads a whole text as one value.  Arrays and objects may be nested 127 deep.
A text that is not JSON is refused with a cause and the place where reading stopped: its
line, and the number of bytes of that line already read.  A key that an object repeats stands
where it occurred first, with the value it had last.

The functions below take the characters that are still to be read and return what they
read with the characters that are left.  They refuse a text with a `Stop`, which gives its
place as the number of bytes that were left unread.
-/

namespace InteractionRouting.Json

/-- Why a text is not JSON. -/
inductive Cause where
  | eofInValue
  | eofInArray
  | eofInObject
  | eofInString
  | expectedValue
  | expectedWord
  | expectedColon
  | expectedArrayEnd
  | expectedObjectEnd
  | keyNotString
  | trailingComma
  | trailingCharacters
  | invalidNumber
  | numberTooLarge
  | invalidEscape
  | controlCharacter
  | loneSurrogate
  | unpairedSurrogate
  | tooDeep
deriving DecidableEq, Repr

/-- The wording of a cause. -/
def Cause.message : Cause → String
  | eofInValue => "EOF while parsing a value"
  | eofInArray => "EOF while parsing a list"
  | eofInObject => "EOF while parsing an object"
  | eofInString => "EOF while parsing a string"
  | expectedValue => "expected value"
  | expectedWord => "expected ident"
  | expectedColon => "expected `:`"
  | expectedArrayEnd => "expected `,` or `]`"
  | expectedObjectEnd => "expected `,` or `\x7d`"
  | keyNotString => "key must be a string"
  | trailingComma => "trailing comma"
  | trailingCharacters => "trailing characters"
  | invalidNumber => "invalid number"
  | numberTooLarge => "number out of range"
  | invalidEscape => "invalid escape"
  | controlCharacter => "control character (\\u0000-\\u001F) found while parsing a string"
  | loneSurrogate => "lone leading surrogate in hex escape"
  | unpairedSurrogate => "unexpected end of hex escape"
  | tooDeep => "recursion limit exceeded"

/-- Reading stopped with `unread` bytes left. -/
structure Stop where
  cause : Cause
  unread : Nat

/-- A step of the reader: from the text, what it read and the text left. -/
abbrev Reader (α : Type) := List Char → Except Stop (α × List Char)

/-- The number of bytes of a text. -/
def byteCount (cs : List Char) : Nat := cs.foldr (fun c n => c.utf8Size + n) 0

/-- Stops before the text `cs`. -/
def stopBefore {α : Type} (cause : Cause) (cs : List Char) : Except Stop α :=
  .error ⟨cause, byteCount cs⟩

/-- Stops `n` bytes into the text `cs`, or at its end. -/
def stopAfter {α : Type} (cause : Cause) (n : Nat) (cs : List Char) : Except Stop α :=
  .error ⟨cause, byteCount cs - n⟩

/-- Space, tab, line feed and carriage return stand between the parts of a document. -/
def isBlank (c : Char) : Bool := c = ' ' || c = '\n' || c = '\t' || c = '\r'

/-- The text after its leading blanks. -/
def skipBlanks (cs : List Char) : List Char := cs.dropWhile isBlank

/-! ### Words -/

/-- Reads the rest of a word. -/
def word {α : Type} (result : α) : List Char → Reader α
  | [], cs => .ok (result, cs)
  | _ :: _, [] => stopBefore .eofInValue []
  | w :: ws, c :: cs =>
    if c = w then word result ws cs else stopAfter .expectedWord 1 (c :: cs)

/-! ### Numbers -/

/-- The value of a decimal digit. -/
def digitValue (c : Char) : Nat := c.toNat - '0'.toNat

/-- Reads digits into a significand for as long as it fits 64 bits.  Gives the
significand, the number of digits read and the text left. -/
def significand : Nat → Nat → List Char → Nat × Nat × List Char
  | value, count, [] => (value, count, [])
  | value, count, c :: cs =>
    if c.isDigit && decide (value * 10 + digitValue c < 18446744073709551616) then
      significand (value * 10 + digitValue c) (count + 1) cs
    else
      (value, count, c :: cs)

/-- The double with the given sign, or a stop when it is too large. -/
def scaled (negative : Bool) (value : Nat) (exponent : Int) (cs : List Char) :
    Except Stop (Json × List Char) :=
  match Decimal.scale value exponent with
  | some x => .ok (.float (if negative then -x else x), cs)
  | none => stopBefore .numberTooLarge cs

/-- Reads the digits of an exponent for as long as they fit a signed 32-bit word.  Gives
the exponent with the text left, or nothing with the text after the digit too many. -/
def exponentDigits : Nat → List Char → Option Nat × List Char
  | value, [] => (some value, [])
  | value, c :: cs =>
    if c.isDigit then
      if value * 10 + digitValue c < 2147483648 then
        exponentDigits (value * 10 + digitValue c) cs
      else
        (none, cs)
    else
      (some value, c :: cs)

/-- Reads the digits of an exponent whose sign is known and adds it to `shift`. -/
def exponentValue (negative : Bool) (value : Nat) (shift : Int) (below : Bool) :
    Reader Json
  | [] => stopBefore .eofInValue []
  | c :: cs =>
    if c.isDigit then
      match exponentDigits (digitValue c) cs with
      | (some e, rest) =>
        scaled negative value (if below then shift - e else shift + e) rest
      | (none, rest) =>
        if value ≠ 0 ∧ ¬below then stopBefore .numberTooLarge rest
        else .ok (.float (if negative then -0.0 else 0.0), rest.dropWhile Char.isDigit)
    else
      stopAfter .invalidNumber 1 (c :: cs)

/-- Reads what follows the mark of an exponent. -/
def exponent (negative : Bool) (value : Nat) (shift : Int) : Reader Json
  | '+' :: cs => exponentValue negative value shift false cs
  | '-' :: cs => exponentValue negative value shift true cs
  | cs => exponentValue negative value shift false cs

/-- Whether a text starts with the mark of an exponent. -/
def startsExponent : List Char → Bool
  | 'e' :: _ => true
  | 'E' :: _ => true
  | _ => false

/-- Reads an exponent if there is one. -/
def exponent? (negative : Bool) (value : Nat) (shift : Int) (cs : List Char) :
    Except Stop (Json × List Char) :=
  if startsExponent cs then exponent negative value shift cs.tail
  else scaled negative value shift cs

/-- Whether a text starts with a digit. -/
def startsDigit : List Char → Bool
  | c :: _ => c.isDigit
  | [] => false

/-- Reads what follows the point of a number.  Digits that no longer fit the significand
are skipped. -/
def fraction (negative : Bool) (value : Nat) (shift : Int) (cs : List Char) :
    Except Stop (Json × List Char) :=
  let (value, count, rest) := significand value 0 cs
  if startsDigit rest then
    exponent? negative value (shift - count) (rest.dropWhile Char.isDigit)
  else if count = 0 then
    match rest with
    | [] => stopBefore .eofInValue []
    | _ => stopAfter .invalidNumber 1 rest
  else
    exponent? negative value (shift - count) rest

/-- An integer literal: a word if it fits one, otherwise a double.  Minus zero is a
double. -/
def ofLiteral (negative : Bool) (value : Nat) : Json :=
  if negative then
    if value = 0 then .float (-0.0)
    else
      match WideInt.ofInt? (-value) with
      | some i => .int i
      | none => .float (-(Float.ofNat value))
  else
    match WideInt.ofInt? value with
    | some i => .int i
    | none => .float (Float.ofNat value)

/-- Reads what follows the digits before the point. -/
def afterInteger (negative : Bool) (value : Nat) (cs : List Char) :
    Except Stop (Json × List Char) :=
  match cs with
  | '.' :: rest => fraction negative value 0 rest
  | _ =>
    if startsExponent cs then exponent negative value 0 cs.tail
    else if startsDigit cs then
      let rest := cs.dropWhile Char.isDigit
      let skipped : Int := (cs.takeWhile Char.isDigit).length
      match rest with
      | '.' :: rest => fraction negative value skipped rest
      | _ => exponent? negative value skipped rest
    else .ok (ofLiteral negative value, cs)

/-- Reads a number after its sign. -/
def number (negative : Bool) : Reader Json
  | [] => stopBefore .eofInValue []
  | c :: cs =>
    if c = '0' then
      if startsDigit cs then stopAfter .invalidNumber 1 cs else afterInteger negative 0 cs
    else if c.isDigit then
      let (value, _, rest) := significand (digitValue c) 0 cs
      afterInteger negative value rest
    else stopAfter .invalidNumber 1 (c :: cs)

/-! ### Strings -/

/-- The value of a hexadecimal digit. -/
def hexValue? (c : Char) : Option Nat :=
  if c.isDigit then some (c.toNat - '0'.toNat)
  else if 'a' ≤ c ∧ c ≤ 'f' then some (c.toNat - 'a'.toNat + 10)
  else if 'A' ≤ c ∧ c ≤ 'F' then some (c.toNat - 'A'.toNat + 10)
  else none

/-- The value of four hexadecimal digits. -/
def hexWord? (a b c d : Char) : Option Nat := do
  let a ← hexValue? a
  let b ← hexValue? b
  let c ← hexValue? c
  let d ← hexValue? d
  return ((a * 16 + b) * 16 + c) * 16 + d

/-- Reads the four digits of a `\u` escape.  Four bytes are read at once. -/
def hexWord (cs : List Char) : Except Stop (Nat × List Char) :=
  let refused : Except Stop (Nat × List Char) :=
    if byteCount cs < 4 then stopBefore .eofInString [] else stopAfter .invalidEscape 4 cs
  match cs with
  | a :: b :: c :: d :: rest =>
    match hexWord? a b c d with
    | some n => .ok (n, rest)
    | none => refused
  | _ => refused

/-- The character of a pair of surrogates. -/
def pairedChar (high low : Nat) : Char :=
  Char.ofNat ((high - 0xD800) * 0x400 + (low - 0xDC00) + 0x10000)

/-- Reads the second half of a surrogate pair. -/
def lowSurrogate (high : Nat) : Reader Char
  | [] => stopBefore .eofInString []
  | '\\' :: [] => stopBefore .eofInString []
  | '\\' :: 'u' :: cs => do
    let (low, rest) ← hexWord cs
    if 0xDC00 ≤ low ∧ low ≤ 0xDFFF then return (pairedChar high low, rest)
    else stopBefore .loneSurrogate rest
  | '\\' :: cs => stopAfter .unpairedSurrogate 1 cs
  | cs => stopAfter .unpairedSurrogate 1 cs

/-- Reads a `\u` escape after its `u`. -/
def unicodeEscape (cs : List Char) : Except Stop (Char × List Char) := do
  let (n, rest) ← hexWord cs
  if 0xDC00 ≤ n ∧ n ≤ 0xDFFF then stopBefore .loneSurrogate rest
  else if 0xD800 ≤ n ∧ n ≤ 0xDBFF then lowSurrogate n rest
  else return (Char.ofNat n, rest)

/-- The character that a one-letter escape stands for. -/
def simpleEscape? : Char → Option Char
  | '"' => some '"'
  | '\\' => some '\\'
  | '/' => some '/'
  | 'b' => some '\x08'
  | 'f' => some '\x0c'
  | 'n' => some '\n'
  | 'r' => some '\r'
  | 't' => some '\t'
  | _ => none

/-- Reads an escape after its backslash. -/
def escape : Reader Char
  | [] => stopBefore .eofInString []
  | 'u' :: cs => unicodeEscape cs
  | c :: cs =>
    match simpleEscape? c with
    | some d => .ok (d, cs)
    | none => stopAfter .invalidEscape 1 (c :: cs)

/-- Reads a string after its opening quote, of at most `fuel` characters. -/
def stringBody : Nat → Reader (List Char)
  | 0, _ => stopBefore .eofInString []
  | _ + 1, [] => stopBefore .eofInString []
  | fuel + 1, c :: cs =>
    if c = '"' then .ok ([], cs)
    else if c = '\\' then do
      let (d, rest) ← escape cs
      let (s, rest) ← stringBody fuel rest
      return (d :: s, rest)
    else if c.toNat < 0x20 then stopAfter .controlCharacter 1 (c :: cs)
    else do
      let (s, rest) ← stringBody fuel cs
      return (c :: s, rest)

/-- Reads a string after its opening quote. -/
def quoted (cs : List Char) : Except Stop (String × List Char) := do
  let (s, rest) ← stringBody (cs.length + 1) cs
  return (String.ofList s, rest)

/-! ### Arrays and objects -/

/-- Reads the items of an array after the first, of at most `fuel` of them. -/
def itemsAfter (item : Reader Json) : Nat → Reader (List Json)
  | 0, _ => stopBefore .eofInArray []
  | fuel + 1, cs =>
    match skipBlanks cs with
    | [] => stopBefore .eofInArray []
    | c :: rest =>
      if c = ']' then .ok ([], rest)
      else if c = ',' then
        match skipBlanks rest with
        | [] => stopBefore .eofInValue []
        | d :: more =>
          if d = ']' then stopAfter .trailingComma 1 (d :: more)
          else do
            let (v, rest) ← item (d :: more)
            let (vs, rest) ← itemsAfter item fuel rest
            return (v :: vs, rest)
      else stopAfter .expectedArrayEnd 1 (c :: rest)

/-- Reads an array after its opening bracket. -/
def arrayBody (item : Reader Json) (cs : List Char) : Except Stop (List Json × List Char) :=
  match skipBlanks cs with
  | [] => stopBefore .eofInArray []
  | c :: rest =>
    if c = ']' then .ok ([], rest)
    else do
      let (v, rest) ← item (c :: rest)
      let (vs, rest) ← itemsAfter item (rest.length + 1) rest
      return (v :: vs, rest)

/-- Reads a field after the opening quote of its key. -/
def field (item : Reader Json) (cs : List Char) : Except Stop ((String × Json) × List Char) := do
  let (key, rest) ← quoted cs
  match skipBlanks rest with
  | [] => stopBefore .eofInObject []
  | c :: rest =>
    if c = ':' then do
      let (v, rest) ← item rest
      return ((key, v), rest)
    else stopAfter .expectedColon 1 (c :: rest)

/-- Reads the fields of an object after the first, of at most `fuel` of them. -/
def fieldsAfter (item : Reader Json) :
    Nat → Reader (List (String × Json))
  | 0, _ => stopBefore .eofInObject []
  | fuel + 1, cs =>
    match skipBlanks cs with
    | [] => stopBefore .eofInObject []
    | c :: rest =>
      if c = '\x7d' then .ok ([], rest)
      else if c = ',' then
        match skipBlanks rest with
        | [] => stopBefore .eofInValue []
        | d :: more =>
          if d = '"' then do
            let (f, rest) ← field item more
            let (fs, rest) ← fieldsAfter item fuel rest
            return (f :: fs, rest)
          else if d = '\x7d' then stopAfter .trailingComma 1 (d :: more)
          else stopAfter .keyNotString 1 (d :: more)
      else stopAfter .expectedObjectEnd 1 (c :: rest)

/-- Reads an object after its opening brace. -/
def objectBody (item : Reader Json) (cs : List Char) :
    Except Stop (List (String × Json) × List Char) :=
  match skipBlanks cs with
  | [] => stopBefore .eofInObject []
  | c :: rest =>
    if c = '\x7d' then .ok ([], rest)
    else if c = '"' then do
      let (f, rest) ← field item rest
      let (fs, rest) ← fieldsAfter item (rest.length + 1) rest
      return (f :: fs, rest)
    else stopAfter .keyNotString 1 (c :: rest)

/-! ### Values -/

/-- Reads a value whose arrays and objects are nested at most `depth` deep. -/
def value : Nat → Reader Json
  | depth, cs =>
    match skipBlanks cs with
    | [] => stopBefore .eofInValue []
    | c :: rest =>
      if c = 'n' then word .null ['u', 'l', 'l'] rest
      else if c = 't' then word (.bool true) ['r', 'u', 'e'] rest
      else if c = 'f' then word (.bool false) ['a', 'l', 's', 'e'] rest
      else if c = '-' then number true rest
      else if c.isDigit then number false (c :: rest)
      else if c = '"' then do
        let (s, rest) ← quoted rest
        return (.string s, rest)
      else if c = '[' then
        match depth with
        | 0 => stopAfter .tooDeep 1 (c :: rest)
        | depth + 1 => do
          let (vs, rest) ← arrayBody (value depth) rest
          return (.array vs, rest)
      else if c = '\x7b' then
        match depth with
        | 0 => stopAfter .tooDeep 1 (c :: rest)
        | depth + 1 => do
          let (fs, rest) ← objectBody (value depth) rest
          return (.object (Table.ofList fs).entries, rest)
      else stopAfter .expectedValue 1 (c :: rest)

/-- How deep arrays and objects may be nested. -/
def maxDepth : Nat := 127

/-- Reads a whole text as one value. -/
def document (cs : List Char) : Except Stop Json := do
  let (v, rest) ← value maxDepth cs
  match skipBlanks rest with
  | [] => return v
  | rest => stopAfter .trailingCharacters 1 rest

/-! ### Places -/

/-- Why and where a text is not JSON. -/
structure SyntaxError where
  cause : Cause
  /-- The number of the line, from 1. -/
  line : Nat
  /-- The number of bytes of the line that were read. -/
  column : Nat
deriving DecidableEq

/-- The line and column after the first `n` bytes of a text. -/
def place : Nat → Nat → Nat → List Char → Nat × Nat
  | _, line, column, [] => (line, column)
  | n, line, column, c :: cs =>
    if n < c.utf8Size then (line, column + n)
    else if c = '\n' then place (n - 1) (line + 1) 0 cs
    else place (n - c.utf8Size) line (column + c.utf8Size) cs

/-- The error of a text whose reading stopped. -/
def Stop.locate (stop : Stop) (text : List Char) : SyntaxError :=
  let (line, column) := place (byteCount text - stop.unread) 1 0 text
  ⟨stop.cause, line, column⟩

def SyntaxError.message (e : SyntaxError) : String :=
  s!"{e.cause.message} at line {e.line} column {e.column}"

/-- Reads a text as a JSON document. -/
def parse (text : String) : Except SyntaxError Json :=
  match document text.toList with
  | .ok v => .ok v
  | .error stop => .error (stop.locate text.toList)

end InteractionRouting.Json
