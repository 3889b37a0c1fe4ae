import Linkage.Json.Basic

/-! The data of YAML documents. The keys of a mapping may be any data; their order is kept and does not matter when
mappings are compared. -/

namespace Linkage.Yaml

inductive Value where
  | null
  | boolean (value : Bool)
  | number (value : Number)
  | string (text : String)
  | list (items : List Value)
  | mapping (entries : List (Value × Value))
  /-- A value with a tag of the document's own. -/
  | tagged (tag : String) (value : Value)
  deriving Repr, Inhabited

namespace Value

/-- Numbers are the same when they are of one kind and equal; that which is not a number is the same as itself. -/
def sameNumber : Number → Number → Bool
  | .decimal (.finite _ 0 _), .decimal (.finite _ 0 _) => true
  | a, b => a = b

mutual
def same : Value → Value → Bool
  | null, null => true
  | boolean a, boolean b => a = b
  | number a, number b => sameNumber a b
  | string a, string b => a = b
  | list a, list b => sameItems a b
  | mapping a, mapping b => a.length = b.length && holdsAll a b
  | tagged tag a, tagged other b => tag = other && same a b
  | _, _ => false

def sameItems : List Value → List Value → Bool
  | [], [] => true
  | a :: rest, b :: others => same a b && sameItems rest others
  | _, _ => false

/-- Whether each of the first entries is among the others. -/
def holdsAll : List (Value × Value) → List (Value × Value) → Bool
  | [], _ => true
  | (key, value) :: rest, others =>
    others.any (fun entry => same key entry.1 && same value entry.2) && holdsAll rest others
end

def find? (key : Value) (entries : List (Value × Value)) : Option Value :=
  (entries.find? fun entry => same key entry.1).map (·.2)

def repeatsKey : List (Value × Value) → Bool
  | [] => false
  | (key, _) :: rest => rest.any (fun entry => same key entry.1) || repeatsKey rest

/-- Null, with or without tags. -/
def isNull : Value → Bool
  | null => true
  | tagged _ value => isNull value
  | _ => false

end Value
end Linkage.Yaml
