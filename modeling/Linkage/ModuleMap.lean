import Linkage.Ascending
import Linkage.ModuleKey

/-! Finite maps from module keys, as lists in key order with each key once. -/

namespace Linkage

abbrev ModuleMap (ν : Type u) := List (ModuleKey × ν)

namespace ModuleMap
variable {ν : Type u}

def find? (map : ModuleMap ν) (key : ModuleKey) : Option ν :=
  (List.find? (fun entry => entry.1 = key) map).map (·.2)

def contains (map : ModuleMap ν) (key : ModuleKey) : Bool :=
  (map.find? key).isSome

/-- Binds a key, in place of what it was bound to. -/
def insert (key : ModuleKey) (value : ν) : ModuleMap ν → ModuleMap ν
  | [] => [(key, value)]
  | (other, held) :: rest =>
    match key.compare other with
    | .lt => (key, value) :: (other, held) :: rest
    | .eq => (key, value) :: rest
    | .gt => (other, held) :: insert key value rest

def ofList (entries : List (ModuleKey × ν)) : ModuleMap ν :=
  entries.foldl (fun map entry => insert entry.1 entry.2 map) []

def keys (map : ModuleMap ν) : List ModuleKey :=
  map.map (·.1)

end ModuleMap

/-- Sets of module keys, in key order. -/
abbrev ModuleSet := List ModuleKey

namespace ModuleSet

def insert (key : ModuleKey) (set : ModuleSet) : ModuleSet :=
  Ascending.insert ModuleKey.compare key set

def ofList (keys : List ModuleKey) : ModuleSet :=
  Ascending.ofList ModuleKey.compare keys

def union (set other : ModuleSet) : ModuleSet :=
  List.foldl (fun union key => insert key union) set other

end ModuleSet
end Linkage
