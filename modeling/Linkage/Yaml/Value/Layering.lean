import Linkage.Yaml.Value

/-! Laying data over other data. Mappings are laid over each other key by key, null takes a key away, and everything
else replaces what was there. -/

namespace Linkage.Yaml.Value

/-- Takes a key away; the last entry moves to its place. -/
def swapRemove (key : Value) (entries : List (Value × Value)) : List (Value × Value) :=
  match entries.findIdx? fun entry => same key entry.1, entries.getLast? with
  | some index, some last =>
    if index + 1 = entries.length then entries.dropLast else entries.dropLast.set index last
  | _, _ => entries

/-- Binds a key, in its place when it is there already, else at the end. -/
def put (key value : Value) : List (Value × Value) → List (Value × Value)
  | [] => [(key, value)]
  | entry :: rest => if same key entry.1 then (entry.1, value) :: rest else entry :: put key value rest

mutual
/-- The data with an overlay laid over a base; a null overlay leaves the base as it is. -/
def overlaid (base : Value) : Value → Value
  | null => base
  | mapping overlay =>
    match base with
    | mapping entries => mapping (overlaidEntries entries entries overlay)
    | _ => mapping overlay
  | overlay => overlay

/-- Lays entries over those of `base`, one after the other; `merged` holds the result so far. -/
def overlaidEntries (base merged : List (Value × Value)) : List (Value × Value) → List (Value × Value)
  | [] => merged
  | (key, value) :: rest =>
    if value.isNull then overlaidEntries base (swapRemove key merged) rest
    else
      -- Looked up in `base`, so that an entry of the same key that was laid before is replaced, not laid over.
      let next := match find? key base with
        | some existing => overlaid existing value
        | none => value
      overlaidEntries base (put key next merged) rest
end

/-- The layers laid over each other in order, from an empty mapping on. -/
def layered (layers : List Value) : Value :=
  layers.foldl overlaid (mapping [])

end Linkage.Yaml.Value
