import Linkage.Text.CaseTable
import Linkage.Text.Ranges

/-! Lower-casing of whole texts. Letters map one by one, with two exceptions: a capital I with a dot keeps its dot
as a combining mark, and a capital sigma that ends a word becomes the final sigma. -/

namespace Linkage.Text

def isCased (c : Char) : Bool :=
  within casedRanges c

def isCaseIgnorable (c : Char) : Bool :=
  within caseIgnorableRanges c

def lowercaseChar (c : Char) : Char :=
  let n := c.toNat
  match lowercaseRuns.find? fun (first, last, step, _) => first ≤ n && n ≤ last && (n - first) % step = 0 with
  | some (_, _, _, shift) => .ofNat (n + shift).toNat
  | none => c

/-- Whether the nearest character that is not ignorable is a cased letter. -/
def meetsCased (text : List Char) : Bool :=
  match text.dropWhile isCaseIgnorable with
  | [] => false
  | c :: _ => isCased c

/-- Lower-cases `text` after `before`, which is given backwards. -/
def lowercaseAfter (before : List Char) : List Char → List Char
  | [] => []
  | c :: rest =>
    let here :=
      if c = 'Σ' then if meetsCased before && !meetsCased rest then ['ς'] else ['σ']
      else if c = 'İ' then ['i', '\u0307']
      else [lowercaseChar c]
    here ++ lowercaseAfter (c :: before) rest

def lowercase (text : String) : String :=
  .ofList (lowercaseAfter [] text.toList)

end Linkage.Text
