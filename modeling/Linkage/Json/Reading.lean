import Linkage.Config.Reading
import Linkage.Json.Basic

/-! Typed reading of JSON. A structure may be an object, whose unknown fields are passed over, or the list of its
fields in order, where fields at the end may be left out. A word may also be the only key of an object, bound to null. -/

namespace Linkage.Json

def asWord : Json → Option String
  | string value => some value
  | object [(name, null)] => some name
  | _ => none

/-- The fields of a structure; a field given twice is refused. -/
def structureFields (names : List String) : Json → Option (List (String × Json))
  | object fields =>
    let known := fields.filter fun entry => names.contains entry.1
    if (known.map (·.1)).Nodup then some known else none
  | list items => if items.length ≤ names.length then some (names.zip items) else none
  | _ => none

def reading : Reading Option Json where
  refuse := none
  text
    | string value => some value
    | _ => none
  boolean
    | boolean value => some value
    | _ => none
  natural
    | number (.natural value) => Text.wordOf? value
    | _ => none
  word := asWord
  present?
    | null => some none
    | value => some (some value)
  items
    | list items => some items
    | _ => none
  entries
    | object fields => some fields
    | _ => none
  fields := structureFields

end Linkage.Json
