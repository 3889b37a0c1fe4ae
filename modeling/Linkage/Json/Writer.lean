import Linkage.Json.Basic

/-! Writing JSON text: on one line, or with one item a line and two spaces of indentation. Only quotes, backslashes
and control characters are escaped. -/

namespace Linkage.Json

private def hexDigit (n : Nat) : Char :=
  if n < 10 then .ofNat ('0'.toNat + n) else .ofNat ('a'.toNat + (n - 10))

def escaped (c : Char) : String :=
  match c with
  | '"' => "\\\""
  | '\\' => "\\\\"
  | '\n' => "\\n"
  | '\t' => "\\t"
  | '\r' => "\\r"
  | '\x08' => "\\b"
  | '\x0c' => "\\f"
  | c => if c.toNat < 0x20 then "\\u00" ++ .ofList [hexDigit (c.toNat / 16), hexDigit (c.toNat % 16)] else c.toString

def quoted (text : String) : String :=
  text.toList.foldl (fun out c => out ++ escaped c) "\"" ++ "\""

mutual
/-- The text on one line, without spaces. -/
def compact : Json → String
  | .null => "null"
  | .boolean value => if value then "true" else "false"
  | .number value => value.text
  | .string value => quoted value
  | .list items => "[" ++ compactItems items ++ "]"
  | .object fields => "\x7b" ++ compactFields fields ++ "\x7d"

def compactItems : List Json → String
  | [] => ""
  | [item] => compact item
  | item :: rest => compact item ++ "," ++ compactItems rest

def compactFields : List (String × Json) → String
  | [] => ""
  | [(name, value)] => quoted name ++ ":" ++ compact value
  | (name, value) :: rest => quoted name ++ ":" ++ compact value ++ "," ++ compactFields rest
end

private def indentation (depth : Nat) : String :=
  "\n" ++ .ofList (List.replicate (2 * depth) ' ')

mutual
/-- The text with one item a line; `depth` containers are open around it. -/
def prettyAt (depth : Nat) : Json → String
  | .list [] => "[]"
  | .list items => "[" ++ prettyItems (depth + 1) items ++ indentation depth ++ "]"
  | .object [] => "{}"
  | .object fields => "\x7b" ++ prettyFields (depth + 1) fields ++ indentation depth ++ "\x7d"
  | .null => "null"
  | .boolean value => if value then "true" else "false"
  | .number value => value.text
  | .string value => quoted value

def prettyItems (depth : Nat) : List Json → String
  | [] => ""
  | [item] => indentation depth ++ prettyAt depth item
  | item :: rest => indentation depth ++ prettyAt depth item ++ "," ++ prettyItems depth rest

def prettyFields (depth : Nat) : List (String × Json) → String
  | [] => ""
  | [(name, value)] => indentation depth ++ quoted name ++ ": " ++ prettyAt depth value
  | (name, value) :: rest =>
    indentation depth ++ quoted name ++ ": " ++ prettyAt depth value ++ "," ++ prettyFields depth rest
end

def pretty (value : Json) : String :=
  prettyAt 0 value

end Linkage.Json
