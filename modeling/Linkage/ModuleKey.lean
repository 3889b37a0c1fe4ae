import Linkage.Error
import Linkage.Text.Blank

/-! Names of libraries: a group and a name, written `group:name`. -/

namespace Linkage

/-- A part of a key is not empty and has neither white space nor a colon. -/
def IsKeyPart (text : String) : Prop :=
  text ≠ "" ∧ ∀ c ∈ text.toList, Text.isBlank c = false ∧ c ≠ ':'

instance (text : String) : Decidable (IsKeyPart text) :=
  @instDecidableAnd _ _ _ (List.decidableBAll _ text.toList)

structure ModuleKey where
  group : String
  name : String
  group_isKeyPart : IsKeyPart group
  name_isKeyPart : IsKeyPart name
  deriving DecidableEq, Repr

namespace ModuleKey

inductive Fault where
  | groupEmpty
  | groupCharacters
  | nameEmpty
  | nameCharacters
  | shape
  deriving DecidableEq, Repr

def Fault.reason : Fault → String
  | groupEmpty => "group is empty"
  | groupCharacters => "group contains invalid characters"
  | nameEmpty => "module is empty"
  | nameCharacters => "module contains invalid characters"
  | shape => "expected 'group:module'"

/-- The key of two parts; the group is looked at first. -/
def make (group name : String) : Except Fault ModuleKey :=
  if hg : IsKeyPart group then
    if hn : IsKeyPart name then return ⟨group, name, hg, hn⟩
    else throw (if name = "" then .nameEmpty else .nameCharacters)
  else throw (if group = "" then .groupEmpty else .groupCharacters)

def ofParts (group name : String) : Except Error ModuleKey :=
  (make group name).mapError fun fault => .invalidCoordinate (group ++ ":" ++ name) fault.reason

def parse (value : String) : Except Error ModuleKey :=
  match Text.fields ':' (Text.trim value.toList) with
  | [group, name] => ofParts (.ofList group) (.ofList name)
  | _ => throw (.invalidCoordinate value Fault.shape.reason)

def text (key : ModuleKey) : String :=
  key.group ++ ":" ++ key.name

/-- Where a repository keeps the library: the segments of the group are directories. -/
def repositoryPath (key : ModuleKey) : String :=
  .ofList (key.group.toList.map fun c => if c = '.' then '/' else c) ++ "/" ++ key.name

/-- Keys are ordered by group, then by name. -/
protected def compare (a b : ModuleKey) : Ordering :=
  (Ord.compare a.group b.group).then (Ord.compare a.name b.name)

instance : Ord ModuleKey := ⟨ModuleKey.compare⟩
instance : ToString ModuleKey := ⟨text⟩

end ModuleKey
end Linkage
