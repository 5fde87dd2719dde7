import InteractionRouting.Json.Basic
import InteractionRouting.Toml.Quoted

/-!
# Words of TOML documents

The values that are neither strings nor made of other values: booleans, integers that fit a
signed 64-bit word, doubles, and dates and times.
-/

namespace InteractionRouting.Toml

/-- Digits without the underscores between them.  An underscore stands between two
digits. -/
def ungroup (isDigit : Char → Bool) : Bool → List Char → Option (List Char)
  | afterDigit, [] => if afterDigit then some [] else none
  | afterDigit, c :: cs =>
    if c = '_' then if afterDigit then ungroup isDigit false cs else none
    else if isDigit c then (ungroup isDigit true cs).map (c :: ·)
    else none

/-- The number that digits stand for. -/
def numeral (base : Nat) (digits : List Char) : Nat :=
  digits.foldl (fun n c => n * base + (Json.hexValue? c).getD 0) 0

/-- Splits off a sign; whether it is a minus. -/
def splitSign : List Char → Bool × List Char
  | '+' :: cs => (false, cs)
  | '-' :: cs => (true, cs)
  | cs => (false, cs)

/-- The digits of a decimal integer: no zero stands before others. -/
def decimalDigits? : List Char → Option (List Char)
  | ['0'] => some ['0']
  | '0' :: _ => none
  | cs => ungroup Char.isDigit false cs

/-- An integer that fits a signed word. -/
def ofSigned? (i : Int) : Option Json :=
  if i < 9223372036854775808 then (WideInt.ofInt? i).map .int else none

/-- An integer in a base other than ten. -/
def based? (base : Nat) (digits : List Char) : Option Json := do
  let digits ← ungroup (fun c => (Json.hexValue? c).any (· < base)) false digits
  ofSigned? (numeral base digits)

/-- An integer. -/
def integer? : List Char → Option Json
  | '0' :: 'x' :: cs => based? 16 cs
  | '0' :: 'o' :: cs => based? 8 cs
  | '0' :: 'b' :: cs => based? 2 cs
  | cs => do
    let (negative, digits) := splitSign cs
    let digits ← decimalDigits? digits
    let n : Int := numeral 10 digits
    ofSigned? (if negative then -n else n)

/-- The double of a sign, digits, and a power of ten, unless it is too large. -/
def double? (negative : Bool) (digits : List Char) (exponent : Int) : Option Json :=
  let x := Decimal.nearest (numeral 10 digits) digits.length exponent
  if negative then some (.float (-x)) else if x.isInf then none else some (.float x)

/-- The power of ten after the mark of an exponent. -/
def exponent? (cs : List Char) : Option Int := do
  let (negative, digits) := splitSign cs
  let digits ← ungroup Char.isDigit false digits
  let n : Int := numeral 10 digits
  return if negative then -n else n

/-- Splits a text at the first of some characters, which belongs to neither part. -/
def splitAtFirst (isMark : Char → Bool) (cs : List Char) : List Char × Option (List Char) :=
  match cs.dropWhile fun c => !isMark c with
  | [] => (cs, none)
  | _ :: rest => (cs.takeWhile fun c => !isMark c, some rest)

/-- A double with a fraction or an exponent. -/
def decimal? (cs : List Char) : Option Json := do
  let (negative, cs) := splitSign cs
  let (significand, power) := splitAtFirst (fun c => c = 'e' || c = 'E') cs
  let (whole, fraction) := splitAtFirst (· = '.') significand
  if power.isNone && fraction.isNone then none
  else
    let whole ← decimalDigits? whole
    let fraction ← (fraction.map (ungroup Char.isDigit false)).getD (some [])
    let power ← (power.map exponent?).getD (some 0)
    double? negative (whole ++ fraction) (power - fraction.length)

/-- An infinity, or what is not a number. -/
def special? (cs : List Char) : Option Json :=
  let (negative, word) := splitSign cs
  let infinity : Float := 1.0 / 0.0
  if word = ['i', 'n', 'f'] then some (.float (if negative then -infinity else infinity))
  else if word = ['n', 'a', 'n'] then some (.float (0.0 / 0.0))
  else none

/-! ### Dates and times -/

/-- Reads so many digits as a number of a range. -/
def field? (width low high : Nat) (cs : List Char) : Option (Nat × List Char) :=
  let digits := cs.take width
  let n := numeral 10 digits
  if digits.length = width ∧ digits.all Char.isDigit ∧ low ≤ n ∧ n ≤ high then
    some (n, cs.drop width)
  else none

/-- Reads one character. -/
def mark? (c : Char) : List Char → Option (List Char)
  | d :: cs => if d = c then some cs else none
  | [] => none

/-- The number of days of a month. -/
def daysOf (year month : Nat) : Nat :=
  if month = 2 then
    if year % 4 = 0 ∧ (year % 100 ≠ 0 ∨ year % 400 = 0) then 29 else 28
  else if [4, 6, 9, 11].contains month then 30
  else 31

/-- The text after a date. -/
def afterDate? (cs : List Char) : Option (List Char) := do
  let (year, cs) ← field? 4 0 9999 cs
  let cs ← mark? '-' cs
  let (month, cs) ← field? 2 1 12 cs
  let cs ← mark? '-' cs
  let (_, cs) ← field? 2 1 (daysOf year month) cs
  return cs

/-- The text after the fraction of a second, if there is one. -/
def afterFraction? : List Char → Option (List Char)
  | '.' :: c :: cs => if c.isDigit then some (cs.dropWhile Char.isDigit) else none
  | '.' :: [] => none
  | cs => some cs

/-- The text after a time of day. -/
def afterTime? (cs : List Char) : Option (List Char) := do
  let (_, cs) ← field? 2 0 23 cs
  let cs ← mark? ':' cs
  let (_, cs) ← field? 2 0 59 cs
  let cs ← mark? ':' cs
  let (_, cs) ← field? 2 0 60 cs
  afterFraction? cs

/-- The text after the distance from universal time, if it is given. -/
def afterOffset? : List Char → Option (List Char)
  | 'Z' :: cs => some cs
  | 'z' :: cs => some cs
  | c :: cs =>
    if c = '+' ∨ c = '-' then do
      let (_, cs) ← field? 2 0 23 cs
      let cs ← mark? ':' cs
      let (_, cs) ← field? 2 0 59 cs
      return cs
    else some (c :: cs)
  | [] => some []

/-- The text after a time of day that follows a date. -/
def afterClock? (cs : List Char) : Option (List Char) := do
  let cs ← afterTime? cs
  afterOffset? cs

/-- The text after a date, a time, or both. -/
def afterMoment? (cs : List Char) : Option (List Char) :=
  match afterDate? cs with
  | some (c :: rest) =>
    if c = 'T' ∨ c = 't' then afterClock? rest
    else if c = ' ' then some ((afterClock? rest).getD (c :: rest))
    else some (c :: rest)
  | some [] => some []
  | none => afterTime? cs

/-- A date or a time: a value made of its text, and no string. -/
def moment (cs : List Char) : Json := .object [("moment", .string (String.ofList cs))]

/-! ### Words -/

/-- Whether a character may stand in a word. -/
def isWordChar (c : Char) : Bool := c.isAlphanum || ['_', '+', '-', '.', ':'].contains c

/-- The value of a word that is no date. -/
def word? (cs : List Char) : Option Json :=
  if cs = ['t', 'r', 'u', 'e'] then some (.bool true)
  else if cs = ['f', 'a', 'l', 's', 'e'] then some (.bool false)
  else (integer? cs).or ((decimal? cs).or (special? cs))

/-- Reads a value that is neither a string nor made of other values. -/
def scalar (cs : List Char) : Option (Json × List Char) :=
  match afterMoment? cs with
  | some rest => some (moment (cs.take (cs.length - rest.length)), rest)
  | none => (word? (cs.takeWhile isWordChar)).map fun v => (v, cs.dropWhile isWordChar)

end InteractionRouting.Toml
