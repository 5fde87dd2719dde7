import InteractionRouting.Json.Printer
import InteractionRouting.Json.Reader

/-!
# Component identifiers

A component carries an identifier that the platform hands back when the component is used.
An identifier packs the name of a handler and a piece of JSON data: `0:name` without data,
`0:name:data` with data.  The leading `0` is the version of the format.
-/

namespace InteractionRouting

/-- What an identifier says: the handler's name, and its data or null. -/
structure Identifier where
  name : String
  data : Json
deriving DecidableEq

namespace Identifier

/-- The platform's limit on the characters of an identifier. -/
def limit : Nat := 100

/-- An identifier is shorter than this; the room left is for a platform that counts
characters in another way. -/
def budget : Nat := 95

/-- Why an identifier cannot be written. -/
inductive WriteError where
  /-- The name contains the delimiter. -/
  | reservedDelimiter (name : String)
  /-- The identifier would be too long. -/
  | overBudget (length : Nat)
deriving DecidableEq

/-- Why a text is not an identifier. -/
inductive ReadError where
  /-- The text does not start with the version. -/
  | unknownVersion (text : String)
  /-- The data are not JSON. -/
  | invalidData (error : Json.SyntaxError)
deriving DecidableEq

def WriteError.message : WriteError → String
  | reservedDelimiter name => s!"custom id name '{name}' must not contain ':'"
  | overBudget length =>
    s!"budget exceeded: encoded custom id is {length} characters, limit is {budget}"

def ReadError.message : ReadError → String
  | unknownVersion text => s!"unsupported custom id version in '{text}'"
  | invalidData error => s!"invalid custom id payload: {error.message}"

/-- An identifier without data. -/
def plain (name : String) : Identifier := ⟨name, .null⟩

def hasData (i : Identifier) : Bool := !i.data.isNull

/-- The characters of an identifier, whatever their number.  Null is written like no data. -/
def chars (name : String) (data : Option Json) : List Char :=
  '0' :: ':' :: (name.toList ++ (data.filter (!·.isNull)).elim [] (':' :: ·.write))

/-- Writes an identifier of a name, with data or without. -/
def encode (name : String) (data : Option Json) : Except WriteError String :=
  if name.toList.contains ':' then .error (.reservedDelimiter name)
  else if budget ≤ (chars name data).length then .error (.overBudget (chars name data).length)
  else .ok (String.ofList (chars name data))

/-- Writes an identifier. -/
def write (i : Identifier) : Except WriteError String := encode i.name (some i.data)

/-- The data of an identifier: none at all, or JSON text. -/
def readData (cs : List Char) : Except ReadError Json :=
  if cs.isEmpty then .ok .null
  else (Json.parse (String.ofList cs)).mapError .invalidData

/-- Reads an identifier. -/
def read (text : String) : Except ReadError Identifier :=
  match text.toList with
  | '0' :: ':' :: rest =>
    (readData (rest.dropWhile (· ≠ ':')).tail).map
      (⟨String.ofList (rest.takeWhile (· ≠ ':')), ·⟩)
  | _ => .error (.unknownVersion text)

end Identifier

end InteractionRouting
