/-!
# Scaling doubles by powers of ten

A decimal literal of a document is read by scaling its 64-bit significand with one
rounded power of ten.  Literals of up to fifteen digits with small exponents come out
exact; others may differ from the nearest double in the last place.  `nearest` is for
settings, which are read to the nearest double.
-/

namespace InteractionRouting.Decimal

/-- The double nearest to `10 ^ n`, for `n ≤ 308`. -/
def powerOfTen (n : Nat) : Float := Float.ofScientific 1 false n

/-- `x / 10 ^ n`, in steps of at most 308. -/
def scaleDown (x : Float) (n : Nat) : Float :=
  if n ≤ 308 then x / powerOfTen n
  else if x == 0 then x
  else scaleDown (x / powerOfTen 308) (n - 308)
termination_by n
decreasing_by omega

/-- `x * 10 ^ n`, or nothing when that is too large for a double. -/
def scaleUp (x : Float) (n : Nat) : Option Float :=
  if n ≤ 308 then
    let y := x * powerOfTen n
    if y.isInf then none else some y
  else if x == 0 then some x
  else none

/-- The double read for `significand * 10 ^ exponent`, or nothing when it is too large. -/
def scale (significand : Nat) (exponent : Int) : Option Float :=
  let x := Float.ofNat significand
  if 0 ≤ exponent then scaleUp x exponent.toNat else some (scaleDown x (-exponent).toNat)

/-- The double nearest to `n * 10 ^ exponent`, where `n` has so many digits.  Beyond the range
of doubles it is an infinity, and below it zero. -/
def nearest (n digits : Nat) (exponent : Int) : Float :=
  if n = 0 ∨ exponent < -400 - digits then 0.0
  else if 400 < exponent then 1.0 / 0.0
  else Float.ofScientific n (exponent < 0) exponent.natAbs

end InteractionRouting.Decimal
