import InteractionRouting.Json.Basic
import InteractionRouting.Table

/-!
# Layers of settings

A layer is an object of settings, some of which are objects themselves.  Where two layers
both have an object, the upper one's fields are set in the lower one's; everywhere else the
upper layer hides the lower.
-/

namespace InteractionRouting.Config

mutual

/-- A setting of an upper layer over that of a lower. -/
def overlay (lower : Json) : Json → Json
  | .object fields =>
    match lower with
    | .object known => .object (overlayFields known fields)
    | _ => .object fields
  | v => v

/-- The fields of an upper object set in those of a lower. -/
def overlayFields (known : List (String × Json)) : List (String × Json) → List (String × Json)
  | [] => known
  | (k, v) :: rest =>
    let upper := match known.lookup k with
      | some lower => overlay lower v
      | none => v
    overlayFields (Table.insertEntry k upper known) rest

end

/-- Layers one over the other, the first at the bottom. -/
def stack (layers : List Json) : Json := layers.foldl overlay (.object [])

/-- The setting at the end of a path of keys. -/
def setting? : List String → Json → Option Json
  | [], v => some v
  | key :: path, v => (v.get? key).bind (setting? path)

/-- A layer with one setting, at the end of a path of keys. -/
def nested : List String → Json → Json
  | [], v => v
  | key :: path, v => .object [(key, nested path v)]

end InteractionRouting.Config
