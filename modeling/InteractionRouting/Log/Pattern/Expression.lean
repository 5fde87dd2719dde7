/-!
# Regular expressions

The syntax of regular expressions: what they are made of, how deep they are nested, and which
names they give to their groups.
-/

namespace InteractionRouting.Log.Pattern

/-- A character that stands for itself, or for a byte when it is written by two digits. -/
structure Literal where
  char : Char
  isByte : Bool
deriving DecidableEq

/-- What stands in the brackets of a class of characters. -/
inductive CharSet where
  /-- Nothing, beside an operator. -/
  | nothing
  | literal (l : Literal)
  | range (first last : Literal)
  /-- A class of ASCII characters that has a name, or all other characters. -/
  | named (negated : Bool)
  /-- A class that is written by a letter: digits, blanks, or letters of words. -/
  | letter (negated : Bool)
  /-- A class in brackets of its own. -/
  | bracketed (negated : Bool) (inner : CharSet)
  /-- Several items one after the other. -/
  | several (items : List CharSet)
  /-- Two sets with an operator between them. -/
  | operation (left right : CharSet)

mutual

/-- How deep brackets, lists of items and operators are nested. -/
def CharSet.depth : CharSet → Nat
  | .nothing | .literal _ | .range _ _ | .named _ | .letter _ => 0
  | .bracketed _ inner => inner.depth + 1
  | .several items => charSetDepth items + 1
  | .operation left right => max left.depth right.depth + 1

def charSetDepth : List CharSet → Nat
  | [] => 0
  | s :: rest => max s.depth (charSetDepth rest)

end

/-- A flag that is turned on or off. -/
structure FlagChange where
  flag : Char
  value : Bool
deriving DecidableEq

/-- A regular expression. -/
inductive Expression where
  | empty
  | literal (l : Literal)
  | anyChar
  /-- The beginning or the end of a line or of the text. -/
  | border
  /-- A place at, or not at, the border of a word. -/
  | wordBorder
  /-- A class that is written by a letter. -/
  | letter (negated : Bool)
  /-- A class in brackets. -/
  | bracketed (negated : Bool) (inner : CharSet)
  /-- Flags for the rest of the group. -/
  | flags (changes : List FlagChange)
  | group (name : Option (List Char)) (changes : List FlagChange) (inner : Expression)
  | repeated (inner : Expression)
  | sequence (parts : List Expression)
  | choice (parts : List Expression)

mutual

/-- How deep an expression is nested. -/
def Expression.depth : Expression → Nat
  | .empty | .literal _ | .anyChar | .border | .wordBorder | .letter _ | .flags _ => 0
  | .bracketed _ inner => inner.depth + 1
  | .group _ _ inner => inner.depth + 1
  | .repeated inner => inner.depth + 1
  | .sequence parts => expressionDepth parts + 1
  | .choice parts => expressionDepth parts + 1

def expressionDepth : List Expression → Nat
  | [] => 0
  | e :: rest => max e.depth (expressionDepth rest)

end

mutual

/-- The names of the groups. -/
def Expression.names : Expression → List (List Char)
  | .empty | .literal _ | .anyChar | .border | .wordBorder | .letter _ | .bracketed _ _
  | .flags _ => []
  | .group name _ inner => name.toList ++ inner.names
  | .repeated inner => inner.names
  | .sequence parts => expressionNames parts
  | .choice parts => expressionNames parts

def expressionNames : List Expression → List (List Char)
  | [] => []
  | e :: rest => e.names ++ expressionNames rest

end

end InteractionRouting.Log.Pattern
