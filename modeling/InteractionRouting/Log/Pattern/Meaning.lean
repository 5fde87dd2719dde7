import InteractionRouting.Log.Pattern.Expression

/-!
# The meaning of regular expressions

Not every regular expression that reads has a meaning.  Tables of Unicode are not to be had:
neither for classes that are written by a letter nor for the borders of words nor for letters
that differ in case only.  Without Unicode, which a flag turns off, ASCII is enough for these,
but then nothing may stand for less than a whole character.
-/

namespace InteractionRouting.Log.Pattern

/-- The flags that a meaning depends on. -/
structure Flags where
  ignoresCase : Bool
  /-- Characters of Unicode are meant, and not bytes. -/
  isWide : Bool
deriving DecidableEq

namespace Flags

def initial : Flags := ⟨false, true⟩

def set (f : Flags) (c : FlagChange) : Flags :=
  if c.flag = 'i' then { f with ignoresCase := c.value }
  else if c.flag = 'u' then { f with isWide := c.value }
  else f

def change (f : Flags) (l : List FlagChange) : Flags := l.foldl set f

end Flags

/-- Whether a literal has a meaning. -/
def Literal.hasMeaning (f : Flags) (l : Literal) : Bool :=
  if f.isWide then !f.ignoresCase else !(l.isByte && decide (0x80 ≤ l.char.toNat))

/-- Whether a literal has a meaning within brackets. -/
def Literal.isMember (f : Flags) (l : Literal) : Bool :=
  if f.isWide then !f.ignoresCase else decide (l.char.toNat < 0x80)

mutual

/-- Whether the content of brackets has a meaning.  Of what is empty, the case can always be
ignored. -/
def CharSet.hasMeaning (f : Flags) : CharSet → Bool
  | .nothing => true
  | .literal l => l.isMember f
  | .range first last => first.isMember f && last.isMember f
  | .named negated => if f.isWide then !f.ignoresCase else !negated
  | .letter negated => !f.isWide && !negated
  | .bracketed negated inner => (f.isWide || !negated) && inner.hasMeaning f
  | .several items => haveMeaning f items
  | .operation left right => left.hasMeaning f && right.hasMeaning f

def haveMeaning (f : Flags) : List CharSet → Bool
  | [] => true
  | s :: rest => s.hasMeaning f && haveMeaning f rest

end

mutual

/-- The flags after an expression, if it has a meaning.  Those that are set in a group hold up
to its end. -/
def Expression.flagsAfter? (f : Flags) : Expression → Option Flags
  | .empty | .border => some f
  | .literal l => if l.hasMeaning f then some f else none
  | .anyChar => if f.isWide then some f else none
  | .wordBorder => if f.isWide then none else some f
  | .letter negated => if f.isWide || negated then none else some f
  | .bracketed negated inner =>
    if (CharSet.bracketed negated inner).hasMeaning f then some f else none
  | .flags changes => some (f.change changes)
  | .group _ changes inner => (inner.flagsAfter? (f.change changes)).map fun _ => f
  | .repeated inner => inner.flagsAfter? f
  | .sequence parts => flagsAfterAll? f parts
  | .choice parts => flagsAfterAll? f parts

def flagsAfterAll? (f : Flags) : List Expression → Option Flags
  | [] => some f
  | e :: rest => (e.flagsAfter? f).bind fun f => flagsAfterAll? f rest

end

/-- Whether an expression has a meaning. -/
def Expression.hasMeaning (e : Expression) : Bool := (e.flagsAfter? .initial).isSome

end InteractionRouting.Log.Pattern
