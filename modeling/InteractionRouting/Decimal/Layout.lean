import InteractionRouting.Decimal.Shortest

/-!
# Layout of decimals

How the digits of a decimal are set down as text: which exponents are written out
positionally, and how an exponent is marked otherwise.
-/

namespace InteractionRouting.Decimal

/-- A way of writing decimals. -/
structure Layout where
  /-- The least power of ten of a first digit that is written positionally. -/
  lowest : Int
  /-- The first power of ten above the positional ones. -/
  highest : Int
  /-- What stands between digits and exponent. -/
  mark : String
  /-- What stands before a nonnegative exponent. -/
  plus : String

/-- Writes digits before and after the point. -/
def Layout.positional (digits : List Char) (exponent : Int) : List Char :=
  if exponent < 0 then
    '0' :: '.' :: (List.replicate ((-exponent).toNat - 1) '0' ++ digits)
  else
    let whole := exponent.toNat + 1
    if digits.length ≤ whole then
      digits ++ List.replicate (whole - digits.length) '0' ++ ['.', '0']
    else
      digits.take whole ++ '.' :: digits.drop whole

/-- Writes digits with an exponent. -/
def Layout.scientific (l : Layout) (digits : List Char) (exponent : Int) : List Char :=
  let significand :=
    match digits with
    | first :: second :: rest => first :: '.' :: second :: rest
    | short => short
  let sign := if exponent < 0 then ['-'] else l.plus.toList
  significand ++ l.mark.toList ++ sign ++ Nat.toDigits 10 exponent.natAbs

/-- Writes a positive decimal. -/
def Layout.write (l : Layout) (d : Decimal) : List Char :=
  let digits := Nat.toDigits 10 d.digits
  if l.lowest ≤ d.exponent ∧ d.exponent < l.highest then
    Layout.positional digits d.exponent
  else
    l.scientific digits d.exponent

/-- Writes a finite double with the fewest digits that read back. -/
def Layout.writeFloat (l : Layout) (x : Float) : List Char :=
  let b := Binary.ofFloat x
  let sign := if b.negative then ['-'] else []
  if b.mantissa == 0 then
    sign ++ ['0', '.', '0']
  else
    sign ++ l.write (shortest b.mantissa b.exponent b.leastOfBinade)

end InteractionRouting.Decimal
