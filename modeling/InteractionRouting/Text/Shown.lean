import InteractionRouting.Text.Hidden

/-!
# Shown values

The text of a value as it is shown to a programmer: a text between double quotes, and a record by
its name and its fields with their names in braces.
-/

namespace InteractionRouting.Text

/-! ### Quoted text -/

/-- A character as it stands in a quotation: quotes and backslashes are escaped, and characters that
do not show are spelled out by number. -/
def quoteChar (c : Char) : List Char :=
  if c = '"' then ['\\', '"']
  else if c = '\\' then ['\\', '\\']
  else if c = '\n' then ['\\', 'n']
  else if c = '\r' then ['\\', 'r']
  else if c = '\t' then ['\\', 't']
  else if c = '\x00' then ['\\', '0']
  else if isHidden c then
    '\\' :: 'u' :: '\x7b' :: (Nat.toDigits 16 c.toNat ++ ['\x7d'])
  else [c]

/-- A text between quotes. -/
def quote (s : String) : String := String.ofList ('"' :: (s.toList.flatMap quoteChar ++ ['"']))

/-- Several texts in brackets, in quotes. -/
def quotedList (l : List String) : String :=
  let body := ", ".intercalate (l.map quote)
  s!"[{body}]"

/-! ### Records -/

/-- A field with its name. -/
def shownField (f : String × String) : String := s!"{f.1}: {f.2}"

/-- A record with all its fields, each already a text. -/
def shown (name : String) (fields : List (String × String)) : String :=
  let body := ", ".intercalate (fields.map shownField)
  s!"{name} \x7b {body} \x7d"

/-- A record with some of its fields. -/
def shownInPart (name : String) (fields : List (String × String)) : String :=
  let body := ", ".intercalate (fields.map shownField ++ [".."])
  s!"{name} \x7b {body} \x7d"

/-- What there may be. -/
def shownOption : Option String → String
  | some s => s!"Some({s})"
  | none => "None"

end InteractionRouting.Text
