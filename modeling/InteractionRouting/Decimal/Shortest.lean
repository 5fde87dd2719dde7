/-!
# Shortest decimals

A finite nonzero double is a number `m * 2 ^ q`, and the reals that round to it form an
interval around it whose ends belong to it when `m` is even.  `shortest` gives the fewest
significant digits of a decimal in that interval, and among the decimals with that many
digits the one nearest to the number.  All arithmetic is on natural numbers.
-/

namespace InteractionRouting

/-- A decimal `0 < digits`, read as `d.ddd * 10 ^ exponent`: the first digit of `digits`
stands before the point. -/
structure Decimal where
  /-- The significant digits, as a natural number. -/
  digits : Nat
  /-- The power of ten of the first digit. -/
  exponent : Int

namespace Decimal

/-- A nonnegative rational, with a positive denominator. -/
structure Ratio where
  num : Nat
  den : Nat

/-- `m * 2 ^ q` as a ratio. -/
def Ratio.scaled (m : Nat) (q : Int) : Ratio :=
  if 0 ≤ q then ⟨m * Nat.pow 2 q.toNat, 1⟩ else ⟨m, Nat.pow 2 (-q).toNat⟩

/-- `x ≤ y` for ratios. -/
def Ratio.le (x y : Ratio) : Bool := x.num * y.den ≤ y.num * x.den

/-- `x < y` for ratios. -/
def Ratio.lt (x y : Ratio) : Bool := x.num * y.den < y.num * x.den

/-- `n * 10 ^ e` as a ratio. -/
def Ratio.decimal (n : Nat) (e : Int) : Ratio :=
  if 0 ≤ e then ⟨n * Nat.pow 10 e.toNat, 1⟩ else ⟨n, Nat.pow 10 (-e).toNat⟩

/-- The number of decimal digits of `n`. -/
def width (n : Nat) : Nat := (Nat.toDigits 10 n).length

/-- The power of ten of the first digit of a positive ratio. -/
def Ratio.leading (x : Ratio) : Int :=
  if x.den ≤ x.num then
    (width (x.num / x.den) : Int) - 1
  else
    -(width ((x.den + x.num - 1) / x.num - 1) : Int)

/-- The reals that round to a double. -/
structure Interval where
  low : Ratio
  high : Ratio
  /-- Whether the two ends belong to the interval. -/
  closed : Bool

/-- Membership of a ratio in an interval. -/
def Interval.contains (i : Interval) (x : Ratio) : Bool :=
  if i.closed then i.low.le x && x.le i.high else i.low.lt x && x.lt i.high

/-- The interval of the double `m * 2 ^ q`.  When `m` is the least mantissa of its binade,
the double below is only half as far away as the one above. -/
def Interval.around (m : Nat) (q : Int) (leastOfBinade : Bool) : Interval where
  low := if leastOfBinade then .scaled (4 * m - 1) (q - 2) else .scaled (2 * m - 1) (q - 1)
  high := .scaled (2 * m + 1) (q - 1)
  closed := m % 2 == 0

/-- The candidate with `n + 1` digits: of the two neighbours of `x` on the grid of decimals
with that many digits, the nearer one that lies in the interval, an exact tie going to the
even neighbour. -/
def candidate (x : Ratio) (i : Interval) (lead : Int) (n : Nat) : Option (Nat × Int) :=
  let unit := lead - n
  let grid : Ratio :=
    if 0 ≤ unit then ⟨x.num, x.den * Nat.pow 10 unit.toNat⟩
    else ⟨x.num * Nat.pow 10 (-unit).toNat, x.den⟩
  let below := grid.num / grid.den
  let above := below + 1
  let twice := 2 * (grid.num % grid.den)
  match i.contains (.decimal below unit), i.contains (.decimal above unit) with
  | true, true =>
    if twice < grid.den || (twice == grid.den && below % 2 == 0) then some (below, unit)
    else some (above, unit)
  | true, false => some (below, unit)
  | false, true => some (above, unit)
  | false, false => none

/-- Drops the trailing zeros of `digits`, at most `fuel` of them. -/
def dropZeros : Nat → Nat → Nat
  | 0, digits => digits
  | fuel + 1, digits =>
    if digits % 10 == 0 && digits != 0 then dropZeros fuel (digits / 10) else digits

/-- The decimal of the number `n * 10 ^ unit`. -/
def ofGrid (n : Nat) (unit : Int) : Decimal where
  digits := dropZeros (width n) n
  exponent := unit + (width n : Int) - 1

/-- The shortest decimal that reads back as the double `m * 2 ^ q`.  Seventeen digits
always suffice. -/
def shortest (m : Nat) (q : Int) (leastOfBinade : Bool) : Decimal :=
  let x := Ratio.scaled m q
  let i := Interval.around m q leastOfBinade
  let lead := x.leading
  match (List.range 17).findSome? (candidate x i lead) with
  | some (n, unit) => ofGrid n unit
  | none => ofGrid m 0

/-- The parts of a double: its sign, mantissa and binary exponent. -/
structure Binary where
  negative : Bool
  mantissa : Nat
  exponent : Int
  /-- The mantissa is the least of its binade, and the binade below is twice as fine. -/
  leastOfBinade : Bool

/-- Takes a finite double apart. -/
def Binary.ofFloat (x : Float) : Binary :=
  let bits := x.toBits.toNat
  let fraction : Nat := bits % Nat.pow 2 52
  let biased : Nat := bits / Nat.pow 2 52 % Nat.pow 2 11
  { negative := bits / Nat.pow 2 63 % 2 == 1
    mantissa := if biased == 0 then fraction else fraction + Nat.pow 2 52
    exponent := if biased == 0 then -1074 else (biased : Int) - 1075
    leastOfBinade := fraction == 0 && 1 < biased }

end Decimal

end InteractionRouting
