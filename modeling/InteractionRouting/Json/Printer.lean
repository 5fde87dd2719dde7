import InteractionRouting.Decimal.Layout
import InteractionRouting.Json.Basic

/-!
# Compact JSON text

`Json.render` writes a value without blanks.  Inside strings the quote, the backslash and
the characters below U+0020 are escaped, and nothing else.
-/

namespace InteractionRouting.Json

/-- Numbers from `0.00001` up to sixteen digits before the point are positional; an
exponent carries its sign. -/
def numberLayout : Decimal.Layout := ⟨-5, 16, "e", "+"⟩

/-- The lower-case hexadecimal digit of `n < 16`. -/
def hexDigit (n : Nat) : Char := Nat.digitChar n

/-- A character as it stands inside a string. -/
def writeChar (c : Char) : List Char :=
  if c = '"' then ['\\', '"']
  else if c = '\\' then ['\\', '\\']
  else if c = '\n' then ['\\', 'n']
  else if c = '\r' then ['\\', 'r']
  else if c = '\t' then ['\\', 't']
  else if c = '\x08' then ['\\', 'b']
  else if c = '\x0c' then ['\\', 'f']
  else if c.toNat < 0x20 then
    ['\\', 'u', '0', '0', hexDigit (c.toNat / 16), hexDigit (c.toNat % 16)]
  else [c]

/-- A string between quotes. -/
def writeString (s : List Char) : List Char :=
  '"' :: (s.flatMap writeChar ++ ['"'])

/-- An integer in decimal. -/
def writeInt (i : Int) : List Char :=
  if i < 0 then '-' :: Nat.toDigits 10 i.natAbs else Nat.toDigits 10 i.natAbs

mutual

/-- The compact text of a value, character by character. -/
def write : Json → List Char
  | null => ['n', 'u', 'l', 'l']
  | bool true => ['t', 'r', 'u', 'e']
  | bool false => ['f', 'a', 'l', 's', 'e']
  | int i => writeInt i.val
  | float x => numberLayout.writeFloat x
  | string s => writeString s.toList
  | array [] => ['[', ']']
  | array (v :: rest) => '[' :: (write v ++ writeItems rest)
  | object [] => ['\x7b', '\x7d']
  | object ((k, v) :: rest) =>
    '\x7b' :: (writeString k.toList ++ ':' :: (write v ++ writeFields rest))

/-- The items after the first, up to the closing bracket. -/
def writeItems : List Json → List Char
  | [] => [']']
  | v :: rest => ',' :: (write v ++ writeItems rest)

/-- The fields after the first, up to the closing brace. -/
def writeFields : List (String × Json) → List Char
  | [] => ['\x7d']
  | (k, v) :: rest => ',' :: (writeString k.toList ++ ':' :: (write v ++ writeFields rest))

end

/-- The compact text of a value. -/
def render (v : Json) : String := String.ofList v.write

end InteractionRouting.Json
